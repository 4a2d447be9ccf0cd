import SourceIndex.Failure
import SourceIndex.Number.Binary
import SourceIndex.Text.Utf8
import SourceIndex.Value

/-! # Types of columns

A column holds values of one type.  `ColumnType.fit` makes a value one of the type or says why
it cannot be, and `ColumnType.text` names the type. -/
set_option autoImplicit false
namespace SourceIndex

inductive IntegerWidth where
  | bits8
  | bits16
  | bits32
  | bits64
  deriving DecidableEq, Repr

def IntegerWidth.count : IntegerWidth → Nat
  | .bits8 => 8
  | .bits16 => 16
  | .bits32 => 32
  | .bits64 => 64

def IntegerWidth.values : IntegerWidth → Nat
  | .bits8 => 256
  | .bits16 => 65536
  | .bits32 => 4294967296
  | .bits64 => 18446744073709551616

inductive Precision where
  | half
  | single
  | double
  deriving DecidableEq, Repr

def Precision.text : Precision → String
  | .half => "halffloat"
  | .single => "float"
  | .double => "double"

def Precision.narrow : Precision → Float → Float
  | .half, x => Binary.half.narrow x
  | .single, x => Binary.single.narrow x
  | .double, x => x

/-- The size up to which every integer is kept exactly. -/
def Precision.exactUpTo : Precision → Nat
  | .half => 2048
  | .single => 16777216
  | .double => 9007199254740992

inductive TimeUnit where
  | seconds
  | milliseconds
  deriving DecidableEq, Repr

/-- The three ways to keep lists: with short offsets, with long ones, or all of one length. -/
inductive ListShape where
  | short
  | long
  | fixed (length : Nat)
  deriving DecidableEq, Repr

/-- Where a list type comes from: made in memory, or read back from a stored dataset.  The two
name their items differently. -/
inductive ItemName where
  | item
  | element
  deriving DecidableEq, Repr

def ItemName.text : ItemName → String
  | .item => "item"
  | .element => "element"

inductive ColumnType where
  | text
  | longText
  | binary
  | nothing
  | bool
  | signed (width : IntegerWidth)
  | unsigned (width : IntegerWidth)
  | float (precision : Precision)
  | day
  | timestamp (unit : TimeUnit)
  | decimal (precision scale : Nat)
  | list (shape : ListShape) (items : ItemName) (inner : ColumnType)
  /-- A group with the one member `x`. -/
  | group (inner : ColumnType)
  /-- Values that are kept once each and referred to by number. -/
  | dictionary (inner : ColumnType)
  deriving DecidableEq, Repr, Inhabited

namespace ColumnType

def name : ColumnType → String
  | .text => "string"
  | .longText => "large_string"
  | .binary => "binary"
  | .nothing => "null"
  | .bool => "bool"
  | .signed width => "int" ++ toString width.count
  | .unsigned width => "uint" ++ toString width.count
  | .float precision => precision.text
  | .day => "date32[day]"
  | .timestamp .seconds => "timestamp[s]"
  | .timestamp .milliseconds => "timestamp[ms]"
  | .decimal precision scale => "decimal128(" ++ toString precision ++ ", " ++ toString scale ++ ")"
  | .list .short items inner => "list<" ++ items.text ++ ": " ++ inner.name ++ ">"
  | .list .long items inner => "large_list<" ++ items.text ++ ": " ++ inner.name ++ ">"
  | .list (.fixed length) items inner =>
    "fixed_size_list<" ++ items.text ++ ": " ++ inner.name ++ ">[" ++ toString length ++ "]"
  | .group inner => "struct<x: " ++ inner.name ++ ">"
  | .dictionary inner => "dictionary<values=" ++ inner.name ++ ", indices=int32, ordered=0>"

def isText : ColumnType → Bool
  | .text => true
  | .longText => true
  | _ => false

def isInteger : ColumnType → Bool
  | .signed _ => true
  | .unsigned _ => true
  | _ => false

def isFloat : ColumnType → Bool
  | .float _ => true
  | _ => false

def isVector : ColumnType → Bool
  | .list _ _ inner => inner.isFloat
  | _ => false

def stored : ColumnType → ColumnType
  | .timestamp _ => .timestamp .milliseconds
  | .list shape _ inner => .list shape .element inner.stored
  | .group inner => .group inner.stored
  | .dictionary inner =>
    match inner with
    | .text => .dictionary .text
    | .longText => .dictionary .longText
    | .binary => .dictionary .binary
    | other => other.stored
  | other => other

/-- An integer as a floating-point value, which it has to be exactly. -/
def fitInteger (precision : Precision) (n : Int) : Except Failure Value :=
  if n < -9223372036854775808 ∨ 9223372036854775808 ≤ n then .error .wideCell
  else if n.natAbs ≤ precision.exactUpTo then .ok (.real (Float.ofInt n))
  else .error .badCell

def eachFitted (fitOne : Value → Except Failure Value) : List Value → Except Failure (List Value)
  | [] => .ok []
  | v :: rest =>
    match fitOne v with
    | .error failure => .error failure
    | .ok fitted =>
      match eachFitted fitOne rest with
      | .error failure => .error failure
      | .ok others => .ok (fitted :: others)

/-- A binary value: the list of the bytes of a text. -/
def bytesOf (text : String) : Value :=
  .list ((Utf8.encode text.toList).map fun byte => .integer byte.toNat)

def fit : ColumnType → Value → Except Failure Value
  | _, .null => .ok .null
  | .text, .text s => .ok (.text s)
  | .longText, .text s => .ok (.text s)
  | .binary, .text s => .ok (bytesOf s)
  | .bool, .bool b => .ok (.bool b)
  | .signed width, .integer n =>
    if -(width.values : Int) ≤ 2 * n ∧ 2 * n < width.values then .ok (.integer n)
    else .error .badCell
  | .unsigned width, .integer n =>
    if 0 ≤ n ∧ n < width.values then .ok (.integer n) else .error .badCell
  | .float precision, .real x => .ok (.real (precision.narrow x))
  | .float precision, .integer n => fitInteger precision n
  | .float _, .bool b => .ok (.real (if b then 1.0 else 0.0))
  | .list shape _ inner, .list items =>
    match eachFitted (fit inner) items with
    | .error failure => .error failure
    | .ok fitted =>
      match shape with
      | .fixed length => if fitted.length = length then .ok (.list fitted) else .error .badCell
      | _ => .ok (.list fitted)
  | .list .., .text "" => .ok (.list [])
  | .list .., .text _ => .error .badCell
  | .list .., _ => .error .mistypedCell
  | .group inner, .table entries =>
    match fit inner ((Value.lookup "x" entries).getD .null) with
    | .error failure => .error failure
    | .ok v => .ok (.table [("x", v)])
  | .dictionary inner, v => fit inner v
  | _, _ => .error .badCell

def fitAll (type : ColumnType) (values : List Value) : Except Failure (List Value) :=
  eachFitted type.fit values

end ColumnType

end SourceIndex
