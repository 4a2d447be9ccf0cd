import SourceIndex.Logging.Placeholder
import SourceIndex.Number.Fixed
import SourceIndex.Value.Conversion

/-! # Values shown in placeholders

The letter of a placeholder says how a value is shown: as a text, as an integer in a base, or as
a number with a fixed number of digits.  Then it is brought to the width that is asked for. -/
set_option autoImplicit false
namespace SourceIndex.Placeholder

/-- A value that is shown: its sign, what stands before its digits, and the rest. -/
structure Shown where
  negative : Bool := false
  front : List Char := []
  body : List Char
  numeric : Bool := true
  deriving DecidableEq, Repr

def asciiOnly (text : List Char) : List Char :=
  text.flatMap fun c =>
    if c.toNat < 0x80 then [c]
    else if c.toNat < 0x100 then '\\' :: 'x' :: Text.hexDigits 2 c.toNat
    else if c.toNat < 0x10000 then '\\' :: 'u' :: Text.hexDigits 4 c.toNat
    else '\\' :: 'U' :: Text.hexDigits 8 c.toNat

def showText (request : Request) (text : List Char) : Shown :=
  { body := match request.precision with | some p => text.take p | none => text
    numeric := false }

def showInteger (request : Request) (base : Nat) (front : List Char) (n : Int) : Shown :=
  let digits := Nat.toDigits base n.natAbs
  let missing := (request.precision.getD 0) - digits.length
  { negative := n < 0, front := if request.marks.alternate then front else [],
    body := List.replicate missing '0' ++ digits }

def wholeOf : Value → Except Failure Int
  | .integer n => .ok n
  | .bool b => .ok (if b then 1 else 0)
  | .real x => Value.truncate x
  | _ => .error .badType

def indexOf : Value → Except Failure Int
  | .integer n => .ok n
  | .bool b => .ok (if b then 1 else 0)
  | _ => .error .badType

def realOf : Value → Except Failure Float
  | .integer n =>
    let x := Float.ofInt n
    if x.isInf then .error (.foreign .overflow "") else .ok x
  | .bool b => .ok (if b then 1.0 else 0.0)
  | .real x => .ok x
  | _ => .error .badType

def showReal (request : Request) (form : Char) (x : Float) : Shown :=
  let places := request.precision.getD 6
  let point := request.marks.alternate
  match Binary.parts x with
  | .notANumber => { body := "nan".toList }
  | .infinite negative => { negative, body := "inf".toList }
  | .finite negative magnitude exponent =>
    let body :=
      match form with
      | 'e' => Fixed.scientific point places magnitude exponent
      | 'f' => Fixed.positional point places magnitude exponent
      | _ => Fixed.general point places magnitude exponent
    { negative, body }

def Shown.capital (shown : Shown) : Shown :=
  { shown with front := shown.front.map Char.toUpper, body := shown.body.map Char.toUpper }

def characterOf : Value → Except Failure Char
  | .text s =>
    match s.toList with
    | [c] => .ok c
    | _ => .error .badType
  | v =>
    (indexOf v).bind fun n =>
      if 0 ≤ n ∧ n < 0x110000 then .ok (Char.ofNat n.toNat) else .error (.foreign .overflow "")

/-- How a value is shown for a letter; nothing if the letter says nothing. -/
def showAs (request : Request) (letter : Char) (v : Value) : Option (Except Failure Shown) :=
  match letter with
  | 's' => some (.ok (showText request v.plain.toList))
  | 'r' => some (.ok (showText request v.shown.toList))
  | 'a' => some (.ok (showText request (asciiOnly v.shown.toList)))
  | 'd' => some ((wholeOf v).map (showInteger request 10 []))
  | 'i' => some ((wholeOf v).map (showInteger request 10 []))
  | 'u' => some ((wholeOf v).map (showInteger request 10 []))
  | 'o' => some ((indexOf v).map (showInteger request 8 ['0', 'o']))
  | 'x' => some ((indexOf v).map (showInteger request 16 ['0', 'x']))
  | 'X' => some ((indexOf v).map fun n => (showInteger request 16 ['0', 'x'] n).capital)
  | 'e' => some ((realOf v).map (showReal request 'e'))
  | 'f' => some ((realOf v).map (showReal request 'f'))
  | 'g' => some ((realOf v).map (showReal request 'g'))
  | 'E' => some ((realOf v).map fun x => (showReal request 'e' x).capital)
  | 'F' => some ((realOf v).map fun x => (showReal request 'f' x).capital)
  | 'G' => some ((realOf v).map fun x => (showReal request 'g' x).capital)
  | 'c' => some ((characterOf v).map fun c => { body := [c], numeric := false })
  | _ => none

def place (request : Request) (shown : Shown) : List Char :=
  let sign : List Char :=
    if !shown.numeric then []
    else if shown.negative then ['-']
    else if request.marks.plus then ['+']
    else if request.marks.space then [' ']
    else []
  let length := sign.length + shown.front.length + shown.body.length
  let missing := request.width - length
  if request.marks.left then
    sign ++ shown.front ++ shown.body ++ List.replicate missing ' '
  else if request.marks.zero ∧ shown.numeric then
    sign ++ shown.front ++ List.replicate missing '0' ++ shown.body
  else List.replicate missing ' ' ++ sign ++ shown.front ++ shown.body

end SourceIndex.Placeholder
