import SourceIndex.Text.Blank
import SourceIndex.Text.Digit

/-! # Integers read from text

Two readers that differ in what they let through.  `readLiteral` takes decimal digits of any
script, blanks at both ends, a sign, and single underscores between digits.  `readLenient`
takes ASCII digits only, but lets leading zeros carry underscores and drops a fraction of
zeros.  Both stop at the same number of digits, beyond which a text is not converted. -/
set_option autoImplicit false
namespace SourceIndex.Integer

def digitLimit : Nat := 4300

inductive Reading where
  | value (n : Int)
  | malformed
  | tooLong (digits : Nat)
  deriving DecidableEq, Repr

def ofDigits (digits : List Nat) : Nat := digits.foldl (fun n d => n * 10 + d) 0

/-- A leading run of digits with single underscores between them: the digits, whether the
underscores stand right, and what follows. -/
def digitRun : Bool → List Char → List Nat → List Nat × Bool × List Char
  | afterDigit, [], found => (found.reverse, afterDigit, [])
  | afterDigit, c :: rest, found =>
    match Text.digitValue? c with
    | some d => digitRun true rest (d :: found)
    | none =>
      if c = '_' then
        if afterDigit then digitRun false rest found else (found.reverse, false, c :: rest)
      else (found.reverse, afterDigit, c :: rest)

def sign : List Char → Bool × List Char
  | '-' :: rest => (true, rest)
  | '+' :: rest => (false, rest)
  | text => (false, text)

/-- White space without the information separators: the blanks that may stand around an
integer. -/
def isMargin (c : Char) : Bool := Text.isBlank c && !(0x1C ≤ c.toNat && c.toNat ≤ 0x1F)

def readLiteral (text : String) : Reading :=
  let (negative, body) := sign (Text.trimBy isMargin text.toList)
  match digitRun false body [] with
  | (digits, true, rest) =>
    if digits.length > digitLimit then .tooLong digits.length
    else if rest.isEmpty then
      let n : Int := ofDigits digits
      .value (if negative then -n else n)
    else .malformed
  | _ => .malformed

/-! ## The lenient reader -/

/-- Zeros in front are dropped up to the digit or point that they stand before; underscores
among them go with them. -/
def dropLeadingZeros : List Char → Option (List Char)
  | '0' :: rest => behindZero '0' rest
  | c :: rest => if ('1' ≤ c ∧ c ≤ '9') ∨ c = '-' then some (c :: rest) else none
  | [] => none
where
  behindZero (last : Char) : List Char → Option (List Char)
    | [] => some [last]
    | c :: rest =>
      if c = '0' ∨ c = '_' then behindZero c rest
      else if '1' ≤ c ∧ c ≤ '9' then some (c :: rest)
      else if c = '.' then some (last :: c :: rest)
      else none

def dropZeroFraction (text : List Char) : List Char :=
  match text.dropWhile (· ≠ '.') with
  | _ :: fraction => if fraction.all (· = '0') then text.takeWhile (· ≠ '.') else text
  | [] => text

def doubledUnderscore : List Char → Bool
  | '_' :: '_' :: _ => true
  | _ :: rest => doubledUnderscore rest
  | [] => false

def dropUnderscores (text : List Char) : List Char :=
  if text.head? = some '_' ∨ text.getLast? = some '_' ∨ doubledUnderscore text then text
  else text.filter (· ≠ '_')

def readPlain (text : List Char) : Reading :=
  let (negative, digits) :=
    match text with
    | '-' :: rest => (true, rest)
    | _ => (false, text)
  if digits.isEmpty ∨ !digits.all Char.isDigit ∨ (digits.head? = some '0' ∧ digits.length > 1) then
    .malformed
  else if digits.length > digitLimit then .tooLong digits.length
  else
    let n : Int := ofDigits (digits.map fun c => c.toNat - '0'.toNat)
    .value (if negative then -n else n)

def readLenient (text : String) : Reading :=
  let trimmed := Text.trimBy isMargin text.toList
  match readPlain trimmed with
  | .malformed =>
    let unsigned := if trimmed.head? = some '+' then trimmed.tail else trimmed
    match dropLeadingZeros unsigned with
    | some rest => readPlain (dropUnderscores (dropZeroFraction rest))
    | none => .malformed
  | reading => reading

end SourceIndex.Integer
