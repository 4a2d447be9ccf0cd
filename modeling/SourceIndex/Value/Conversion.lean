import SourceIndex.Failure
import SourceIndex.Number.Binary
import SourceIndex.Number.Integer
import SourceIndex.Value

/-! # Values made into others

Every value counts as true or false: empty collections, empty texts, zeros and the missing
value count as false.  Some values can be made into an integer or into a list. -/
set_option autoImplicit false
namespace SourceIndex.Value

def isTrue : Value → Bool
  | .null => false
  | .bool b => b
  | .integer n => n ≠ 0
  | .real x => !(x == 0.0)
  | .text s => !s.isEmpty
  | .moment _ => true
  | .list items => !items.isEmpty
  | .table entries => !entries.isEmpty

def truncate (x : Float) : Except Failure Int :=
  match Binary.parts x with
  | .notANumber => .error .integerOfNaN
  | .infinite _ => .error .integerOfInfinity
  | .finite negative magnitude exponent =>
    let size := Binary.wholePart magnitude exponent
    .ok (if negative then -(size : Int) else size)

def toInteger : Value → Except Failure Int
  | .integer n => .ok n
  | .bool b => .ok (if b then 1 else 0)
  | .real x => truncate x
  | .text s =>
    match Integer.readLiteral s with
    | .value n => .ok n
    | .malformed => .error (.notAnInteger s)
    | .tooLong digits => .error (.tooManyDigits digits)
  | _ => .error .badType

/-- The items of a value: of a text its characters, of a table its keys. -/
def items : Value → Except Failure (List Value)
  | .list items => .ok items
  | .text s => .ok (s.toList.map fun c => .text c.toString)
  | .table entries => .ok (entries.map fun entry => .text entry.1)
  | _ => .error .badType

end SourceIndex.Value
