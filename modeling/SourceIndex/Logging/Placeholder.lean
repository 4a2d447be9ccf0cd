import SourceIndex.Failure
import SourceIndex.Value

/-! # Placeholders

A placeholder begins with a percent sign and ends with a letter that says how a value is shown
in its place.  Between the two stand, in this order, a key in parentheses, marks, a width, a
precision and a length letter, all of which may be missing.  A star for a width or a precision
takes it from the values. -/
set_option autoImplicit false
namespace SourceIndex.Placeholder

structure Marks where
  left : Bool := false
  plus : Bool := false
  space : Bool := false
  alternate : Bool := false
  zero : Bool := false
  deriving DecidableEq, Repr, Inhabited

/-- What a placeholder asks for, as far as it has been read. -/
structure Request where
  marks : Marks := {}
  width : Nat := 0
  precision : Option Nat := none
  deriving DecidableEq, Repr, Inhabited

/-- What is left to be put into a text: values in order, and the table that keys are looked up
in, where there is one. -/
structure Supply where
  values : List Value
  entries : Option Entries := none

def Supply.next (supply : Supply) : Except Failure (Value × Supply) :=
  match supply.values with
  | v :: rest => .ok (v, { supply with values := rest })
  | [] => .error .badType

/-- A key in parentheses, which may hold others. -/
def readKey (depth : Nat) (found : List Char) : List Char → Option (List Char × List Char)
  | [] => none
  | ')' :: rest =>
    if depth = 0 then some (found.reverse, rest) else readKey (depth - 1) (')' :: found) rest
  | '(' :: rest => readKey (depth + 1) ('(' :: found) rest
  | c :: rest => readKey depth (c :: found) rest

def readMarks (marks : Marks) : List Char → Marks × List Char
  | '-' :: rest => readMarks { marks with left := true } rest
  | '+' :: rest => readMarks { marks with plus := true } rest
  | ' ' :: rest => readMarks { marks with space := true } rest
  | '#' :: rest => readMarks { marks with alternate := true } rest
  | '0' :: rest => readMarks { marks with zero := true } rest
  | text => (marks, text)

def readNumber (n : Nat) : List Char → Nat × List Char
  | [] => (n, [])
  | c :: rest =>
    if c.isDigit then readNumber (n * 10 + (c.toNat - '0'.toNat)) rest else (n, c :: rest)

def widthLimit : Nat := 9223372036854775807

def precisionLimit : Nat := 2147483647

/-- An integer among the values, where a star stands for it; it has to stay within the limit. -/
def starred (limit : Nat) (supply : Supply) : Except Failure (Int × Supply) :=
  match supply.next with
  | .error failure => .error failure
  | .ok (.integer n, rest) =>
    if limit < n.natAbs then .error (.foreign .overflow "") else .ok (n, rest)
  | .ok (.bool b, rest) => .ok (if b then 1 else 0, rest)
  | .ok _ => .error .badType

def readLimited (limit : Nat) (tooBig : String) (text : List Char) :
    Except Failure (Nat × List Char) :=
  let (n, rest) := readNumber 0 text
  if limit < n then .error (.foreign .badValue tooBig) else .ok (n, rest)

def readWidth (request : Request) (supply : Supply) :
    List Char → Except Failure (Request × Supply × List Char)
  | '*' :: rest =>
    (starred widthLimit supply).map fun (n, after) =>
      let marks := if n < 0 then { request.marks with left := true } else request.marks
      ({ request with marks, width := n.natAbs }, after, rest)
  | text =>
    (readLimited widthLimit "width too big" text).map fun (width, rest) =>
      ({ request with width }, supply, rest)

def readPrecision (request : Request) (supply : Supply) :
    List Char → Except Failure (Request × Supply × List Char)
  | '.' :: '*' :: rest =>
    (starred precisionLimit supply).map fun (n, after) =>
      ({ request with precision := some n.toNat }, after, rest)
  | '.' :: text =>
    (readLimited precisionLimit "precision too big" text).map fun (precision, rest) =>
      ({ request with precision := some precision }, supply, rest)
  | text => .ok (request, supply, text)

def skipLength : List Char → List Char
  | c :: rest => if c = 'h' ∨ c = 'l' ∨ c = 'L' then rest else c :: rest
  | [] => []

def lookKeyUp (supply : Supply) : List Char → Except Failure (Supply × List Char)
  | '(' :: rest =>
    match supply.entries with
    | none => .error .badType
    | some entries =>
      match readKey 0 [] rest with
      | none => .error (.foreign .badValue "incomplete format key")
      | some (key, after) =>
        match Value.lookup (String.ofList key) entries with
        | none => .error (.missingEntry (String.ofList key))
        | some v => .ok ({ supply with values := [v] }, after)
  | text => .ok (supply, text)

end SourceIndex.Placeholder
