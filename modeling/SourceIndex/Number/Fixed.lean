import SourceIndex.Number.Binary
import SourceIndex.Number.Decimal

/-! # Numbers with a fixed number of digits

A double is written with a chosen number of digits, exactly rounded to nearest and to even. -/
set_option autoImplicit false
namespace SourceIndex.Fixed

def roundRatio (numerator denominator : Nat) : Nat :=
  let quotient := numerator / denominator
  let twice := 2 * (numerator % denominator)
  if twice > denominator ∨ (twice = denominator ∧ quotient % 2 = 1) then quotient + 1 else quotient

def scaled (magnitude : Nat) (exponent shift : Int) : Nat :=
  roundRatio (magnitude * powTwo exponent.toNat * powTen shift.toNat)
    (powTwo (-exponent).toNat * powTen (-shift).toNat)

/-- A natural whose last `places` digits stand behind the point.  Without places there is a
point only if it is to be kept. -/
def withPoint (keepPoint : Bool) (places : Nat) (n : Nat) : List Char :=
  let digits := Decimal.padded (places + 1) n
  if places = 0 then (if keepPoint then digits ++ ['.'] else digits)
  else digits.take (digits.length - places) ++ '.' :: digits.drop (digits.length - places)

def positional (keepPoint : Bool) (places magnitude : Nat) (exponent : Int) : List Char :=
  withPoint keepPoint places (scaled magnitude exponent places)

/-- The digits of a positive value, one more than `places`, and the exponent of the first. -/
def leading (places magnitude : Nat) (exponent : Int) : Nat × Int :=
  if magnitude = 0 then (0, 0)
  else
    let first := Decimal.digitsBeforePoint magnitude exponent - 1
    let digits := scaled magnitude exponent (places - first)
    if digits < powTen (places + 1) then (digits, first)
    else (scaled magnitude exponent (places - (first + 1)), first + 1)

def exponentText (e : Int) : List Char :=
  'e' :: (if e < 0 then '-' else '+') :: Decimal.padded 2 e.natAbs

def scientific (keepPoint : Bool) (places magnitude : Nat) (exponent : Int) : List Char :=
  let (digits, first) := leading places magnitude exponent
  withPoint keepPoint places digits ++ exponentText first

/-- A number without the zeros that end its places, nor the point if nothing is left of
them. -/
def dropEndZeros (text : List Char) : List Char :=
  if text.contains '.' then
    let kept := Text.trimRight (· = '0') text
    if kept.getLast? = some '.' then kept.dropLast else kept
  else text

/-- Positional notation where the exponent is small, otherwise notation with an exponent; so
many digits in all, without the zeros at the end unless they are to be kept with the point. -/
def general (keepPoint : Bool) (digits magnitude : Nat) (exponent : Int) : List Char :=
  let count := max 1 digits
  let (significant, first) := leading (count - 1) magnitude exponent
  let shorten := if keepPoint then id else dropEndZeros
  if -4 ≤ first ∧ first < count then
    shorten (positional keepPoint ((count - 1 : Int) - first).toNat magnitude exponent)
  else shorten (withPoint keepPoint (count - 1) significant) ++ exponentText first

end SourceIndex.Fixed
