import OperatorIR.Proofs.Numeral
import OperatorIR.Proofs.OutlineReading

/-!
# The leaves of values

What is not a list is written as one leaf: a quoted text, a numeral, a truth value in lower case,
or the name of an element type. A leaf can stand in an outline, and its text tells what it is.

## Main definitions

* `OperatorIR.Leaf` — the four kinds of leaves.
* `OperatorIR.Leaf.text` — the text of a leaf.

## Main results

* `OperatorIR.Leaf.readable` — leaves can be read in an outline.
* `OperatorIR.Leaf.text_injective` — different leaves have different texts.
-/

set_option autoImplicit false

namespace OperatorIR

open Text (IsWord isDelimiter quoted)
open Text.Outline (Readable)

/-! ## Words -/

/-- No structural character is one of numerals. -/
theorem not_isDelimiter_of_isNumeralChar {c : Char} (h : isNumeralChar c = true) :
    (!isDelimiter c) = true := by
  have all : ['"', ' ', ',', ':', '(', ')', '[', ']', '\x7b', '\x7d'].all
      (fun d => !isNumeralChar d) = true := rfl
  rw [Bool.not_eq_true', ← Bool.not_eq_true]
  intro hd
  have hn := List.all_eq_true.1 all c (List.contains_iff_mem.1 hd)
  rw [h] at hn
  exact absurd hn (by decide)

/-- Numerals are words. -/
theorem IsNumeral.isWord {text : String} (h : IsNumeral text) : IsWord text :=
  List.all_eq_true.2 fun c hc => not_isDelimiter_of_isNumeralChar (List.all_eq_true.1 h.chars c hc)

/-- The two truth values are words. -/
theorem isWord_boolText (b : Bool) : IsWord (boolText b) := by
  cases b <;> rfl

/-- So are the names of types. -/
theorem isWord_name (t : ElementType) : IsWord t.name := by
  cases t <;> rfl

/-- Quoted text is no word. -/
theorem quoted_ne_of_isWord {w : String} (hw : IsWord w) (s : String) : quoted s ≠ w := by
  rintro rfl
  rw [IsWord, Text.toList_quoted] at hw
  exact absurd (List.all_eq_true.1 hw '"' List.mem_cons_self) (by decide)

/-- The word of a truth value is no numeral. -/
theorem boolText_ne_of_isNumeral {w : String} (hw : IsNumeral w) (b : Bool) : boolText b ≠ w := by
  rintro rfl
  have hc := hw.chars
  cases b <;> exact absurd hc (by decide)

/-- The name of a type is no numeral. -/
theorem name_ne_of_isNumeral {w : String} (hw : IsNumeral w) (t : ElementType) : t.name ≠ w := by
  rintro rfl
  have hc := hw.chars
  cases t <;> exact absurd hc (by decide)

/-- The word of a truth value is not the name of a type. -/
theorem boolText_ne_name (b : Bool) (t : ElementType) : boolText b ≠ t.name := by
  cases b <;> cases t <;> decide

/-- The two truth values have different words. -/
theorem boolText_inj {a b : Bool} : boolText a = boolText b ↔ a = b := by
  cases a <;> cases b <;> decide

/-! ## Leaves -/

/-- A value that is written without brackets. Of a number only its numeral is known. -/
inductive Leaf where
  | string (text : String)
  | number (numeral : String) (h : IsNumeral numeral)
  | bool (b : Bool)
  | elementType (t : ElementType)

namespace Leaf

/-- The text of a leaf. -/
def text : Leaf → String
  | string text => quoted text
  | number numeral _ => numeral
  | bool b => boolText b
  | elementType t => t.name

/-- Leaves can be read in an outline. -/
theorem readable (l : Leaf) : Readable (.leaf l.text) := by
  cases l with
  | string s => exact Text.Outline.readable_quoted s
  | number numeral hn => exact .leaf (Or.inl hn.isWord) hn.nonempty
  | bool b => exact .leaf (Or.inl (isWord_boolText b)) (by cases b <;> decide)
  | elementType t => exact .leaf (Or.inl (isWord_name t)) (by cases t <;> decide)

/-- **The text of a leaf** tells what it is.

**Proof sketch.** A text in quotes is no word. Of the words, a numeral has no character that is in
the word of a truth value or in the name of a type, and these two differ from each other. -/
theorem text_injective {l m : Leaf} (h : l.text = m.text) : l = m := by
  cases l with
  | string s =>
    cases m with
    | string t => rw [Text.quoted_inj.1 h]
    | number b hb => exact absurd h (quoted_ne_of_isWord hb.isWord s)
    | bool b => exact absurd h (quoted_ne_of_isWord (isWord_boolText b) s)
    | elementType t => exact absurd h (quoted_ne_of_isWord (isWord_name t) s)
  | number a ha =>
    cases m with
    | string t => exact absurd h.symm (quoted_ne_of_isWord ha.isWord t)
    | number b hb =>
      obtain rfl : a = b := h
      rfl
    | bool b => exact absurd h.symm (boolText_ne_of_isNumeral ha b)
    | elementType t => exact absurd h.symm (name_ne_of_isNumeral ha t)
  | bool a =>
    cases m with
    | string t => exact absurd h.symm (quoted_ne_of_isWord (isWord_boolText a) t)
    | number b hb => exact absurd h (boolText_ne_of_isNumeral hb a)
    | bool b => rw [boolText_inj.1 h]
    | elementType t => exact absurd h (boolText_ne_name a t)
  | elementType s =>
    cases m with
    | string t => exact absurd h.symm (quoted_ne_of_isWord (isWord_name s) t)
    | number b hb => exact absurd h (name_ne_of_isNumeral hb s)
    | bool b => exact absurd h.symm (boolText_ne_name b s)
    | elementType t => rw [ElementType.name_injective h]

end Leaf

end OperatorIR
