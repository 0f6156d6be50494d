/-!
# Numbers in single precision

A number in the binary format of 32 bits: one bit for the sign, eight for the exponent and 23 for
the fraction. The bits are kept as they are, so that no payload of a NaN and no sign of a zero is
lost; equality is that of the numbers.

## Main definitions

* `OperatorIR.Single` — the number with the given bits.
* `OperatorIR.Single.isNaN`, `isInfinite`, `isZero`, `isNegative` — its class and its sign.
* `OperatorIR.Single.significand`, `exponent` — a finite magnitude is
  `significand · 2 ^ exponent`.

## Main results

* `OperatorIR.Single.beq_iff` — equal are the same non-NaN number and any two zeros.
-/

set_option autoImplicit false

namespace OperatorIR

/-- A number in single precision, given by its bits. -/
structure Single where
  /-- Sign, exponent and fraction, from the highest bit down. -/
  bits : UInt32
  deriving DecidableEq

namespace Single

/-! ## Class and sign -/

/-- The sign bit, above all others. -/
def signBit : Nat := 0x80000000

/-- The lowest bit of the exponent, which is also the leading bit of a normal significand. -/
def leadingBit : Nat := 0x800000

/-- The bits of the magnitude; among numbers of one sign they order as the magnitudes do. -/
def magnitude (x : Single) : Nat := x.bits.toNat % signBit

/-- The magnitude of an infinity. -/
def infinite : Nat := 0x7f800000

/-- Is the sign bit set? -/
def isNegative (x : Single) : Bool := decide (signBit ≤ x.bits.toNat)

/-- Is it not a number? -/
def isNaN (x : Single) : Bool := decide (infinite < x.magnitude)

/-- Is it one of the two infinities? -/
def isInfinite (x : Single) : Bool := decide (x.magnitude = infinite)

/-- Is it one of the two zeros? -/
def isZero (x : Single) : Bool := decide (x.magnitude = 0)

/-! ## Value -/

/-- The exponent as it is stored; zero marks the subnormal numbers. -/
def biasedExponent (x : Single) : Nat := x.magnitude / leadingBit

/-- The bits below the exponent. -/
def fraction (x : Single) : Nat := x.magnitude % leadingBit

/-- The significand of a finite number, as a whole number. -/
def significand (x : Single) : Nat :=
  if x.biasedExponent = 0 then x.fraction else leadingBit + x.fraction

/-- The power of two that goes with the significand. -/
def exponent (x : Single) : Int :=
  if x.biasedExponent = 0 then -149 else (x.biasedExponent : Int) - 150

/-! ## Equality -/

/-- Numbers are equal when neither is NaN and they are the same or both zero. -/
def beq (x y : Single) : Bool :=
  !x.isNaN && !y.isNaN && (decide (x = y) || x.isZero && y.isZero)

/-- Numbers are compared by `beq`. -/
instance : BEq Single := ⟨beq⟩

/-- Equal are the same non-NaN number and any two zeros. -/
theorem beq_iff (x y : Single) :
    (x == y) = true ↔
      x.isNaN = false ∧ y.isNaN = false ∧ (x = y ∨ x.isZero = true ∧ y.isZero = true) := by
  show beq x y = true ↔ _
  simp [beq, and_assoc]

/-- A number equals itself unless it is NaN. -/
theorem beq_self_iff (x : Single) : (x == x) = true ↔ x.isNaN = false := by
  simp [beq_iff]

end Single

end OperatorIR
