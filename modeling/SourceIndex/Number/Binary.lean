import SourceIndex.Number.Power

/-! # Binary floating-point values

A finite double is `magnitude · 2 ^ exponent` with a sign.  `narrow` rounds it to a format of
fewer digits: to the nearest value of the format, to the even one of two equally near, and to
infinity beyond the largest. -/
set_option autoImplicit false
namespace SourceIndex.Binary

inductive Parts where
  | finite (negative : Bool) (magnitude : Nat) (exponent : Int)
  | infinite (negative : Bool)
  | notANumber
  deriving DecidableEq, Repr

def parts (x : Float) : Parts :=
  let bits : Nat := x.toBits.toNat
  let negative : Bool := bits / powTwo 63 = 1
  let biased : Nat := bits / powTwo 52 % powTwo 11
  let fraction : Nat := bits % powTwo 52
  if biased = 2047 then (if fraction = 0 then .infinite negative else .notANumber)
  else if biased = 0 then .finite negative fraction (-1074)
  else .finite negative (fraction + powTwo 52) ((biased : Int) - 1075)

def wholePart (magnitude : Nat) (exponent : Int) : Nat :=
  magnitude * powTwo exponent.toNat / powTwo (-exponent).toNat

def hasFraction (magnitude : Nat) (exponent : Int) : Bool :=
  magnitude % powTwo (-exponent).toNat ≠ 0

/-- A format of binary floating-point values: how many binary digits a value has, the exponent
of the least digit, and the exponent that is out of reach. -/
structure Format where
  digits : Nat
  least : Int
  beyond : Int
  deriving DecidableEq, Repr

def single : Format := ⟨24, -149, 128⟩

def half : Format := ⟨11, -24, 16⟩

/-- The quotient by `2 ^ shift`, rounded to nearest and to even. -/
def shiftRound (magnitude shift : Nat) : Nat :=
  let unit := powTwo shift
  let quotient := magnitude / unit
  let twice := 2 * (magnitude % unit)
  if twice > unit ∨ (twice = unit ∧ quotient % 2 = 1) then quotient + 1 else quotient

def Format.round (format : Format) (magnitude : Nat) (exponent : Int) : Nat × Int :=
  let length : Int := if magnitude = 0 then 0 else Nat.log2 magnitude + 1
  let target := max format.least (exponent + length - format.digits)
  if target ≤ exponent then (magnitude, exponent)
  else (shiftRound magnitude (target - exponent).toNat, target)

/-- The double `magnitude · 2 ^ exponent`, for a magnitude of at most 53 binary digits. -/
def assemble (negative : Bool) (magnitude : Nat) (exponent : Int) : Float :=
  let size := (Nat.toFloat magnitude).scaleB exponent
  if negative then -size else size

def Format.narrow (format : Format) (x : Float) : Float :=
  match parts x with
  | .finite negative magnitude exponent =>
    let (kept, target) := format.round magnitude exponent
    if kept ≠ 0 ∧ (Nat.log2 kept : Int) + target ≥ format.beyond then
      (if negative then -1.0 / 0.0 else 1.0 / 0.0)
    else assemble negative kept target
  | _ => x

end SourceIndex.Binary
