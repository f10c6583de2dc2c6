import Mathlib.Algebra.Group.Nat.Defs
import Mathlib.Data.Rat.Defs

/-!
# Foundations - Finite decimals

A finite `Decimal` is a sign, a coefficient and an exponent: the same number has many
representations, and its text depends on which one it is.

Main results:

- Definition `Decimal.value`: the number.
- Definition `Decimal.positional`: the text of `format(d, "f")`.
- Definition `Decimal.toText`: the text of `str(d)`.
-/

namespace Foundations

/-- `(-1)^negative * coefficient * 10^exponent`. -/
structure Decimal where
  negative : Bool
  coefficient : Nat
  exponent : Int
deriving DecidableEq

namespace Decimal

/-- The decimal of a natural number. -/
def ofNat (n : Nat) : Decimal :=
  ⟨false, n, 0⟩

/-- The number without its sign. -/
def magnitude (d : Decimal) : Rat :=
  if 0 ≤ d.exponent then ((d.coefficient * 10 ^ d.exponent.toNat : Nat) : Rat)
  else mkRat d.coefficient (10 ^ (-d.exponent).toNat)

/-- The number. -/
def value (d : Decimal) : Rat :=
  if d.negative then -d.magnitude else d.magnitude

/-- The digits of the coefficient. -/
def digits (d : Decimal) : List Char :=
  (toString d.coefficient).toList

/-- Digits before and after the point: `dotplace` counts the digits before it. -/
def splitAtPoint (digits : List Char) (dotplace : Int) : List Char × List Char :=
  if dotplace < 0 then (['0'], List.replicate (-dotplace).toNat '0' ++ digits)
  else if (digits.length : Int) < dotplace then
    (digits ++ List.replicate (dotplace.toNat - digits.length) '0', [])
  else
    let whole := digits.take dotplace.toNat
    (if whole.isEmpty then ['0'] else whole, digits.drop dotplace.toNat)

/-- `format(d, "f")`; a zero with a positive exponent is rescaled to `0`. -/
def positional (d : Decimal) : String :=
  let d : Decimal := if d.coefficient = 0 ∧ 0 < d.exponent then ⟨d.negative, 0, 0⟩ else d
  let (whole, fraction) := splitAtPoint d.digits (d.exponent + d.digits.length)
  let sign : List Char := if d.negative then ['-'] else []
  let point : List Char := if fraction.isEmpty then [] else ['.']
  String.ofList (sign ++ whole ++ point ++ fraction)

/-- `str(d)`: very large and very small numbers get an exponent. -/
def toText (d : Decimal) : String :=
  let leftdigits : Int := d.exponent + d.digits.length
  let dotplace : Int := if d.exponent ≤ 0 ∧ -6 < leftdigits then leftdigits else 1
  let (whole, fraction) := splitAtPoint d.digits dotplace
  let sign : List Char := if d.negative then ['-'] else []
  let point : List Char := if fraction.isEmpty then [] else ['.']
  let shift := leftdigits - dotplace
  let exponent : List Char :=
    if shift = 0 then []
    else 'E' :: (if shift < 0 then '-' else '+') :: (toString shift.natAbs).toList
  String.ofList (sign ++ whole ++ point ++ fraction ++ exponent)

example : (Decimal.mk false 15 (-1)).toText = "1.5" := by decide

example : (Decimal.mk true 5 (-8)).toText = "-5E-8" := by decide

end Decimal

end Foundations
