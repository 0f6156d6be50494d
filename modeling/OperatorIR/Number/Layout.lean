import OperatorIR.Number.Shortest

/-!
# Numbers in text

A number is written with the digits of its shortest decimal, either positionally or in scientific
form. Two layouts are in use: the plain one never has an exponent and leaves integral numbers
without a point; the general one marks them by `.0`, and turns to the scientific form for very
small and very large magnitudes.

## Main definitions

* `OperatorIR.Decimal.positional`, `OperatorIR.Decimal.scientific` — the two forms.
* `OperatorIR.NumberLayout` — the choices of a layout; `plain` and `general` are the two in use.
* `OperatorIR.NumberLayout.write` — a number in a given layout.
-/

set_option autoImplicit false

namespace OperatorIR

namespace Decimal

/-- The digits of the coefficient, the highest first. -/
def coefficient (d : Decimal) : List Char := Nat.toDigits 10 d.digits

/-- The decimal without an exponent; an integral one ends in `whole`. -/
def positional (d : Decimal) (whole : String) : String :=
  let ds := d.coefficient
  let places := (-d.exponent).toNat
  if 0 ≤ d.exponent then
    String.ofList (ds ++ List.replicate d.exponent.toNat '0') ++ whole
  else if places < ds.length then
    String.ofList (ds.take (ds.length - places) ++ '.' :: ds.drop (ds.length - places))
  else
    String.ofList ('0' :: '.' :: List.replicate (places - ds.length) '0' ++ ds)

/-- The decimal with one digit before the point, and the power of ten that goes with it. -/
def scientific (d : Decimal) : String :=
  match d.coefficient with
  | [] => ""
  | lead :: rest =>
    let fraction := if rest.isEmpty then [] else '.' :: rest
    String.ofList (lead :: fraction) ++ "e" ++ Int.repr (d.exponent + rest.length)

end Decimal

/-- What a layout decides. Magnitudes are given by their bits. -/
structure NumberLayout where
  /-- What follows the digits of an integral number. -/
  whole : String
  /-- The least magnitude, zero apart, that is written without an exponent. -/
  positionalFrom : Nat
  /-- The least magnitude above it that is written with one. -/
  positionalBelow : Nat

namespace NumberLayout

/-- Every finite number is positional, and integral numbers have no point. -/
def plain : NumberLayout := ⟨"", 0, Single.infinite⟩

/-- Integral numbers end in `.0`; the scientific form begins below the number nearest to `10⁻⁴`
and at the one nearest to `10¹⁶`. -/
def general : NumberLayout := ⟨".0", 0x38d1b717, 0x5a0e1bca⟩

/-- A finite magnitude. -/
def writeFinite (l : NumberLayout) (x : Single) : String :=
  if x.isZero then Decimal.positional ⟨0, 0⟩ l.whole
  else if l.positionalFrom ≤ x.magnitude ∧ x.magnitude < l.positionalBelow then
    x.shortest.positional l.whole
  else x.shortest.scientific

/-- A number in the layout: NaN has no sign, all others show theirs when it is negative. -/
def write (l : NumberLayout) (x : Single) : String :=
  if x.isNaN then "NaN"
  else (if x.isNegative then "-" else "") ++ (if x.isInfinite then "inf" else l.writeFinite x)

end NumberLayout

end OperatorIR
