import SourceIndex.Number.Binary
import SourceIndex.Text.Blank

/-! # Decimal text of numbers

`shortest` gives the fewest decimal digits that read back as a double: the first grid of one,
two, … seventeen digits on which one of the value's two neighbours lies between the halfway
points to the next doubles.  All of it is exact arithmetic on naturals.  `Layout` says how the
digits are written down. -/
set_option autoImplicit false
namespace SourceIndex.Decimal

open SourceIndex.Binary (Parts parts)

/-- A positive value `center · 2 ^ exponent` with the bounds of the reals that round to it; the
bounds belong to it when `closed`. -/
structure Interval where
  low : Nat
  center : Nat
  high : Nat
  exponent : Int
  closed : Bool
  deriving DecidableEq, Repr

/-- The reals that round to the double `magnitude · 2 ^ exponent`.  Below a power of two the
next double is only half as far away. -/
def interval (magnitude : Nat) (exponent : Int) : Interval :=
  let low :=
    if magnitude = powTwo 52 ∧ exponent > -1074 then 4 * magnitude - 1 else 4 * magnitude - 2
  ⟨low, 4 * magnitude, 4 * magnitude + 2, exponent - 2, magnitude % 2 = 0⟩

/-- Both sides of a comparison between `x · 2 ^ binary` and `d · 10 ^ decimal` as factors of `x`
and of `d`. -/
def scales (binary decimal : Int) : Nat × Nat :=
  (powTwo binary.toNat * powTen (-decimal).toNat, powTen decimal.toNat * powTwo (-binary).toNat)

/-- The number of digits before the point: the least `e` with `value < 10 ^ e`. -/
def digitsBeforePoint (value : Nat) (binary : Int) : Int :=
  let estimate := ((Nat.log2 value : Int) + binary) * 30103 / 100000
  let below (e : Int) : Bool :=
    let (a, b) := scales binary e
    value * a < b
  if below (estimate - 1) then estimate - 1
  else if below estimate then estimate
  else if below (estimate + 1) then estimate + 1
  else estimate + 2

/-- A point of the grid of multiples of `10 ^ decimal` that reads back as the value, the nearer
of two, and of two as near the even one. -/
def onGrid (i : Interval) (decimal : Int) : Option Nat :=
  let (a, b) := scales i.exponent decimal
  let inside (d : Nat) : Bool :=
    if i.closed then i.low * a ≤ d * b && d * b ≤ i.high * a
    else i.low * a < d * b && d * b < i.high * a
  let floor := i.center * a / b
  let below := i.center * a - floor * b
  let above := (floor + 1) * b - i.center * a
  match inside floor, inside (floor + 1) with
  | true, true =>
    some (if below < above ∨ (below = above ∧ floor % 2 = 0) then floor else floor + 1)
  | true, false => some floor
  | false, true => some (floor + 1)
  | false, false => none

def searchGrids (i : Interval) (before : Int) : Nat → Nat → Nat × Int
  | 0, digits => (0, before - digits)
  | fuel + 1, digits =>
    match onGrid i (before - digits) with
    | some d => (d, before - digits)
    | none => searchGrids i before fuel (digits + 1)

/-- The fewest digits of a positive value that read back, as a natural and the exponent of its
last digit. -/
def shortest (magnitude : Nat) (exponent : Int) : Nat × Int :=
  let i := interval magnitude exponent
  searchGrids i (digitsBeforePoint i.center i.exponent) 17 1

structure Layout where
  /-- Positional notation begins where the point stands behind this many digits. -/
  positionalAbove : Int
  /-- It ends where the point stands behind more digits than this. -/
  positionalUpTo : Int
  /-- What is written behind a whole number. -/
  wholeMark : List Char
  /-- The least number of digits in an exponent. -/
  exponentWidth : Nat
  infinity : String
  notANumber : String

def padded (width n : Nat) : List Char :=
  let digits := (toString n).toList
  List.replicate (width - digits.length) '0' ++ digits

def Layout.exponentText (layout : Layout) (e : Int) : List Char :=
  'e' :: (if e < 0 then '-' else '+') :: padded layout.exponentWidth e.natAbs

def Layout.place (layout : Layout) (digits : List Char) (point : Int) : List Char :=
  if layout.positionalAbove < point ∧ point ≤ layout.positionalUpTo then
    if point ≤ 0 then ['0', '.'] ++ List.replicate (-point).toNat '0' ++ digits
    else if digits.length ≤ point.toNat then
      digits ++ List.replicate (point.toNat - digits.length) '0' ++ layout.wholeMark
    else digits.take point.toNat ++ '.' :: digits.drop point.toNat
  else
    match digits with
    | [] => []
    | [d] => d :: layout.exponentText (point - 1)
    | d :: rest => d :: '.' :: rest ++ layout.exponentText (point - 1)

def Layout.text (layout : Layout) (x : Float) : String :=
  match parts x with
  | .notANumber => layout.notANumber
  | .infinite negative => (if negative then "-" else "") ++ layout.infinity
  | .finite negative magnitude exponent =>
    let body :=
      if magnitude = 0 then layout.place ['0'] 1
      else
        let (d, e) := shortest magnitude exponent
        let digits := (toString d).toList
        layout.place (Text.trimRight (· = '0') digits) (digits.length + e)
    (if negative then "-" else "") ++ String.ofList body

/-! ## Reading decimals -/

/-- The double nearest to `mantissa · 10 ^ exponent`.  Values far out of range are settled by
their size alone. -/
def toFloat (mantissa : Nat) (exponent : Int) : Float :=
  let size := ((toString mantissa).length : Int) + exponent
  if mantissa = 0 ∨ size < -400 then 0.0
  else if size > 400 then 1.0 / 0.0
  else Float.ofScientific mantissa (exponent < 0) exponent.natAbs

end SourceIndex.Decimal
