/-!
# Hanging indentation

Text that spans several lines is set behind a margin: the blanks go after each line break of the
text, also where the line that follows is empty.

## Main definitions

* `OperatorIR.Text.spaces` — a run of blanks.
* `OperatorIR.Text.hang` — the text with a margin after each of its line breaks.

## Main results

* `OperatorIR.Text.hang_eq_self` — a text on one line stands as it is.
-/

set_option autoImplicit false

namespace OperatorIR.Text

/-- A run of `n` blanks. -/
def spaces (n : Nat) : String := String.ofList (List.replicate n ' ')

/-- The text with `width` blanks after each of its line breaks. -/
def hang (width : Nat) (text : String) : String :=
  String.ofList (text.toList.flatMap fun c =>
    if c = '\n' then '\n' :: List.replicate width ' ' else [c])

/-- The characters of a run of blanks. -/
@[simp] theorem toList_spaces (n : Nat) : (spaces n).toList = List.replicate n ' ' := by
  simp [spaces]

/-- The characters of a hung text. -/
theorem toList_hang (width : Nat) (text : String) :
    (hang width text).toList = text.toList.flatMap fun c =>
      if c = '\n' then '\n' :: List.replicate width ' ' else [c] := by
  simp [hang]

/-- A text without line breaks stands as it is. -/
theorem hang_eq_self (width : Nat) {text : String} (h : '\n' ∉ text.toList) :
    hang width text = text := by
  apply String.toList_inj.1
  rw [toList_hang]
  generalize text.toList = cs at h
  induction cs with
  | nil => rfl
  | cons c cs ih =>
    simp only [List.mem_cons, not_or] at h
    simp [ih h.2, Ne.symm h.1]

end OperatorIR.Text
