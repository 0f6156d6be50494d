import Mathlib
import OperatorIR.AttrValue.Text

/-!
# Numerals

The texts of numbers, integers as well as those in single precision, in any layout. They are made
from a small alphabet, which has none of the characters that give text its structure, and they are
not empty.

## Main definitions

* `OperatorIR.isNumeralChar` — the alphabet of numerals.
* `OperatorIR.IsNumeral` — a text that can be the numeral of a number.

## Main results

* `OperatorIR.isNumeral_intText` — integers are written as numerals.
* `OperatorIR.NumberLayout.isNumeral_write` — so are numbers in single precision.
* `OperatorIR.toInt?_intText`, `OperatorIR.intText_inj` — an integer is read back from its numeral.
-/

set_option autoImplicit false

namespace OperatorIR

/-- The characters of numerals: digits, sign, point, the mark of an exponent, and the letters of
the words for what is no finite number. -/
def isNumeralChar (c : Char) : Bool :=
  c.isDigit || ['-', '.', 'e', 'N', 'a', 'i', 'n', 'f'].contains c

/-- The text is not empty, and made from the characters of numerals. -/
structure IsNumeral (text : String) : Prop where
  nonempty : text.toList ≠ []
  chars : text.toList.all isNumeralChar = true

/-- Characters of numerals may stand in front of a numeral. -/
theorem IsNumeral.append_left {s t : String} (ht : IsNumeral t)
    (hs : s.toList.all isNumeralChar = true) : IsNumeral (s ++ t) where
  nonempty := by simp [ht.nonempty]
  chars := by rw [String.toList_append, List.all_append, hs, ht.chars, Bool.and_self]

/-- Characters of numerals may stand behind a numeral. -/
theorem IsNumeral.append_right {s t : String} (hs : IsNumeral s)
    (ht : t.toList.all isNumeralChar = true) : IsNumeral (s ++ t) where
  nonempty := by simp [hs.nonempty]
  chars := by rw [String.toList_append, List.all_append, hs.chars, ht, Bool.and_self]

/-- At least one character, and all of them characters of numerals. -/
theorem isNumeral_ofList {cs : List Char} (hne : cs ≠ []) (h : cs.all isNumeralChar = true) :
    IsNumeral (String.ofList cs) where
  nonempty := by simpa using hne
  chars := by simpa using h

/-! ## Integers -/

/-- Decimal digits are characters of numerals. -/
theorem all_toDigits (n : Nat) : (Nat.toDigits 10 n).all isNumeralChar = true := by
  rw [List.all_eq_true]
  intro c hc
  have hd : c.isDigit = true := Nat.isDigit_of_mem_toDigits (by decide) (by decide) hc
  rw [isNumeralChar, hd, Bool.true_or]

/-- Natural numbers are written as numerals. -/
theorem isNumeral_natRepr (n : Nat) : IsNumeral n.repr := by
  rw [Nat.repr_eq_ofList_toDigits]
  exact isNumeral_ofList Nat.toDigits_ne_nil (all_toDigits n)

/-- So are integers, whose sign stands in front. -/
theorem isNumeral_intRepr (n : Int) : IsNumeral n.repr := by
  rw [Int.repr_eq_if]
  split
  · exact isNumeral_natRepr _
  · exact (isNumeral_natRepr _).append_left (by decide)

/-- Integers are written as numerals. -/
theorem isNumeral_intText (n : Int64) : IsNumeral (intText n) := isNumeral_intRepr n.toInt

/-- An integer is read back from its numeral. -/
theorem toInt?_intText (n : Int64) : (intText n).toInt? = some n.toInt := Int.toInt?_repr n.toInt

/-- Different integers have different numerals. -/
theorem intText_inj {m n : Int64} : intText m = intText n ↔ m = n := by
  rw [intText, intText, Int.repr_inj, Int64.toInt_inj]

/-! ## Decimals -/

namespace Decimal

/-- The digits of a decimal are characters of numerals. -/
theorem all_coefficient (d : Decimal) : d.coefficient.all isNumeralChar = true :=
  all_toDigits d.digits

/-- A decimal has a digit, also when it is zero. -/
theorem coefficient_ne_nil (d : Decimal) : d.coefficient ≠ [] := Nat.toDigits_ne_nil

/-- The zeros that fill up a decimal are characters of numerals. -/
theorem all_zeros (n : Nat) : (List.replicate n '0').all isNumeralChar = true := by
  rw [List.all_replicate]
  split <;> rfl

/-- Without an exponent a decimal is written as a numeral, wherever the point falls. -/
theorem isNumeral_positional (d : Decimal) {whole : String}
    (hw : whole.toList.all isNumeralChar = true) : IsNumeral (d.positional whole) := by
  have htake : ∀ n, (d.coefficient.take n).all isNumeralChar = true := fun n =>
    List.all_eq_true.2 fun c hc => List.all_eq_true.1 d.all_coefficient c (List.mem_of_mem_take hc)
  have hdrop : ∀ n, (d.coefficient.drop n).all isNumeralChar = true := fun n =>
    List.all_eq_true.2 fun c hc => List.all_eq_true.1 d.all_coefficient c (List.mem_of_mem_drop hc)
  have hpoint : isNumeralChar '.' = true := rfl
  have hzero : isNumeralChar '0' = true := rfl
  unfold positional
  dsimp only
  split
  · refine (isNumeral_ofList (by simp [d.coefficient_ne_nil]) ?_).append_right hw
    rw [List.all_append, d.all_coefficient, all_zeros, Bool.and_self]
  · split
    · refine isNumeral_ofList (by simp) ?_
      rw [List.all_append, List.all_cons, htake, hdrop, hpoint, Bool.and_self, Bool.and_self]
    · refine isNumeral_ofList (by simp) ?_
      rw [List.all_append, List.all_cons, List.all_cons, hzero, hpoint, all_zeros,
        d.all_coefficient]
      rfl

/-- So it is with an exponent. -/
theorem isNumeral_scientific (d : Decimal) : IsNumeral d.scientific := by
  have hall := d.all_coefficient
  unfold scientific
  cases hd : d.coefficient with
  | nil => exact absurd hd d.coefficient_ne_nil
  | cons lead rest =>
    rw [hd, List.all_cons, Bool.and_eq_true] at hall
    have hfraction : (if rest.isEmpty then [] else '.' :: rest).all isNumeralChar = true := by
      split
      · rfl
      · rw [List.all_cons, hall.2]
        rfl
    have hlead := isNumeral_ofList (List.cons_ne_nil lead _)
      ((List.all_cons).trans (by rw [hall.1, hfraction, Bool.and_self]))
    exact (hlead.append_right rfl).append_right (isNumeral_intRepr _).chars

end Decimal

/-! ## Numbers in single precision -/

namespace NumberLayout

variable (l : NumberLayout) (hw : l.whole.toList.all isNumeralChar = true)

include hw in
/-- Finite numbers are written as numerals, in either of the two forms. -/
theorem isNumeral_writeFinite (x : Single) : IsNumeral (l.writeFinite x) := by
  unfold writeFinite
  split
  · exact Decimal.isNumeral_positional _ hw
  · split
    · exact Decimal.isNumeral_positional _ hw
    · exact Decimal.isNumeral_scientific _

include hw in
/-- Numbers in single precision are written as numerals. -/
theorem isNumeral_write (x : Single) : IsNumeral (l.write x) := by
  have hsign : (if x.isNegative then "-" else "").toList.all isNumeralChar = true := by
    split <;> rfl
  unfold write
  split
  · exact ⟨by decide, rfl⟩
  · refine IsNumeral.append_left ?_ hsign
    split
    · exact ⟨by decide, rfl⟩
    · exact l.isNumeral_writeFinite hw x

/-- The plain layout puts nothing behind whole numbers. -/
theorem isNumeral_write_plain (x : Single) : IsNumeral (plain.write x) :=
  plain.isNumeral_write rfl x

/-- The general layout puts a point and a zero there, which numerals have as well. -/
theorem isNumeral_write_general (x : Single) : IsNumeral (general.write x) :=
  general.isNumeral_write rfl x

end NumberLayout

end OperatorIR
