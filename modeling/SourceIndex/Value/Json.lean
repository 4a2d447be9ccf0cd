import SourceIndex.Value

/-! # Values written as JSON

`read?` takes one JSON value with white space around it.  A number without fraction and
exponent is an integer of any size, any other number a real; `NaN` and the infinities are
numbers too.  A key given twice keeps its first place and its last value. -/
set_option autoImplicit false
namespace SourceIndex.Json

def isSpace (c : Char) : Bool := c = ' ' || c = '\t' || c = '\n' || c = '\r'

def skipSpace (text : List Char) : List Char := text.dropWhile isSpace

def hexValue? (c : Char) : Option Nat :=
  if '0' ≤ c ∧ c ≤ '9' then some (c.toNat - 48)
  else if 'a' ≤ c ∧ c ≤ 'f' then some (c.toNat - 87)
  else if 'A' ≤ c ∧ c ≤ 'F' then some (c.toNat - 55)
  else none

def fourHex? : List Char → Option (Nat × List Char)
  | a :: b :: c :: d :: rest =>
    match hexValue? a, hexValue? b, hexValue? c, hexValue? d with
    | some a, some b, some c, some d => some (((a * 16 + b) * 16 + c) * 16 + d, rest)
    | _, _, _, _ => none
  | _ => none

def escape? (c : Char) : Option Char :=
  match c with
  | '"' => some '"'
  | '\\' => some '\\'
  | '/' => some '/'
  | 'b' => some (Char.ofNat 8)
  | 'f' => some (Char.ofNat 12)
  | 'n' => some '\n'
  | 'r' => some '\r'
  | 't' => some '\t'
  | _ => none

/-- An escaped code unit and what follows; two units that make one character are read
together. -/
def unicodeEscape? (text : List Char) : Option (Char × List Char) :=
  match fourHex? text with
  | none => none
  | some (high, rest) =>
    if 0xD800 ≤ high ∧ high < 0xDC00 then
      match rest with
      | '\\' :: 'u' :: more =>
        match fourHex? more with
        | some (low, after) =>
          if 0xDC00 ≤ low ∧ low < 0xE000 then
            some (Char.ofNat (0x10000 + (high - 0xD800) * 0x400 + (low - 0xDC00)), after)
          else some (Char.ofNat 0xFFFD, rest)
        | none => some (Char.ofNat 0xFFFD, rest)
      | _ => some (Char.ofNat 0xFFFD, rest)
    else some (Char.ofNat (if 0xDC00 ≤ high ∧ high < 0xE000 then 0xFFFD else high), rest)

/-- The inside of a string of at most `fuel` characters up to its closing quote, with what was
read so far in reverse. -/
def string? : Nat → List Char → List Char → Option (String × List Char)
  | 0, _, _ => none
  | fuel + 1, found, text =>
    match text with
    | [] => none
    | '"' :: rest => some (String.ofList found.reverse, rest)
    | '\\' :: 'u' :: rest =>
      match unicodeEscape? rest with
      | some (c, after) => string? fuel (c :: found) after
      | none => none
    | '\\' :: c :: rest =>
      match escape? c with
      | some e => string? fuel (e :: found) rest
      | none => none
    | c :: rest => if c.toNat < 0x20 then none else string? fuel (c :: found) rest

def digits (text : List Char) : List Char × List Char := text.span Char.isDigit

def natural (digits : List Char) : Nat := digits.foldl (fun n c => n * 10 + (c.toNat - 48)) 0

/-- A fraction and what follows it; nothing is taken where no digit follows the point. -/
def fraction (text : List Char) : List Char × List Char :=
  match text with
  | '.' :: rest =>
    match digits rest with
    | ([], _) => ([], text)
    | (ds, after) => (ds, after)
  | _ => ([], text)

def exponent (text : List Char) : Option Int × List Char :=
  match text with
  | e :: rest =>
    if e = 'e' ∨ e = 'E' then
      let (negative, unsigned) :=
        match rest with
        | '-' :: more => (true, more)
        | '+' :: more => (false, more)
        | _ => (false, rest)
      match digits unsigned with
      | ([], _) => (none, text)
      | (ds, after) => (some (if negative then -(natural ds : Int) else natural ds), after)
    else (none, text)
  | [] => (none, text)

def number? (text : List Char) : Option (Value × List Char) :=
  let (negative, unsigned) :=
    match text with
    | '-' :: rest => (true, rest)
    | _ => (false, text)
  let (whole, afterWhole) :=
    match unsigned with
    | '0' :: rest => (['0'], rest)
    | _ => digits unsigned
  if whole.isEmpty then none
  else
    let (part, afterPart) := fraction afterWhole
    let (power, after) := exponent afterPart
    if part.isEmpty ∧ power.isNone then
      let n : Int := natural whole
      some (.integer (if negative then -n else n), after)
    else
      let size := Decimal.toFloat (natural (whole ++ part)) (power.getD 0 - part.length)
      some (.real (if negative then -size else size), after)

def word? (text : List Char) : Option (Value × List Char) :=
  let named : List (String × Value) :=
    [("null", .null), ("true", .bool true), ("false", .bool false), ("NaN", .real (0.0 / 0.0)),
      ("Infinity", .real (1.0 / 0.0)), ("-Infinity", .real (-1.0 / 0.0))]
  (named.find? fun entry => entry.1.toList.isPrefixOf text).map
    fun entry => (entry.2, text.drop entry.1.length)

mutual
/-- A value at the front of a text; `fuel` is at least twice the length of the text. -/
def value? : Nat → List Char → Option (Value × List Char)
  | 0, _ => none
  | fuel + 1, text =>
    match text with
    | '"' :: rest => (string? fuel [] rest).map fun (s, after) => (.text s, after)
    | '[' :: rest =>
      match skipSpace rest with
      | ']' :: after => some (.list [], after)
      | inner => (items? fuel inner []).map fun (items, after) => (.list items, after)
    | '\x7b' :: rest =>
      match skipSpace rest with
      | '\x7d' :: after => some (.table [], after)
      | inner => (entries? fuel inner []).map fun (entries, after) => (.table entries, after)
    | _ =>
      match word? text with
      | some found => some found
      | none => number? text

/-- The items of a list up to its end, those before them in reverse. -/
def items? : Nat → List Char → List Value → Option (List Value × List Char)
  | 0, _, _ => none
  | fuel + 1, text, found =>
    match value? fuel text with
    | none => none
    | some (v, rest) =>
      match skipSpace rest with
      | ',' :: more => items? fuel (skipSpace more) (v :: found)
      | ']' :: after => some ((v :: found).reverse, after)
      | _ => none

def entries? : Nat → List Char → List (String × Value) → Option (List (String × Value) × List Char)
  | 0, _, _ => none
  | fuel + 1, text, found =>
    match text with
    | '"' :: rest =>
      match string? fuel [] rest with
      | none => none
      | some (key, afterKey) =>
        match skipSpace afterKey with
        | ':' :: more =>
          match value? fuel (skipSpace more) with
          | none => none
          | some (v, afterValue) =>
            match skipSpace afterValue with
            | ',' :: next => entries? fuel (skipSpace next) (Value.insert key v found)
            | '\x7d' :: after => some (Value.insert key v found, after)
            | _ => none
        | _ => none
    | _ => none
end

def read? (text : String) : Option Value :=
  let characters := text.toList
  match value? (2 * characters.length + 2) (skipSpace characters) with
  | some (v, rest) => if (skipSpace rest).isEmpty then some v else none
  | none => none

/-! ## Writing -/

def escaped (c : Char) : String :=
  if c = '"' then "\\\""
  else if c = '\\' then "\\\\"
  else if c.toNat < 0x20 then "\\u" ++ String.ofList (Text.hexDigits 4 c.toNat)
  else c.toString

def quoted (text : String) : String :=
  text.foldl (fun out c => out ++ escaped c) "\"" ++ "\""

end SourceIndex.Json
