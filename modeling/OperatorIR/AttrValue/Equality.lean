import OperatorIR.AttrValue.Basic

/-!
# Equality of attribute values

Two attribute values are equal when they are built alike and agree at each place; numbers agree as
numbers, so that the two zeros are equal and a value that holds a NaN is not equal even to itself.

## Main definitions

* `OperatorIR.AttrValue.beq`, `beqAll` — equality of values and of lists of values.

## Main results

* `OperatorIR.AttrValue.beqAll_eq_beq` — lists of values are equal when their items are.
* `OperatorIR.AttrValue.list_beq_list` — so are values that are lists.
-/

set_option autoImplicit false

namespace OperatorIR

namespace AttrValue

mutual

/-- The values are built alike and agree at each place. -/
def beq : AttrValue → AttrValue → Bool
  | string s, string t => s == t
  | int m, int n => m == n
  | ints ms, ints ns => ms == ns
  | float x, float y => x == y
  | bool a, bool b => a == b
  | elementType s, elementType t => decide (s = t)
  | list xs, list ys => beqAll xs ys
  | _, _ => false

/-- The lists are of one length and agree item by item. -/
def beqAll : List AttrValue → List AttrValue → Bool
  | [], [] => true
  | x :: xs, y :: ys => beq x y && beqAll xs ys
  | _, _ => false

end

/-- Values are compared by `beq`. -/
instance : BEq AttrValue := ⟨beq⟩

/-- Equality of values is the function `beq`. -/
theorem beq_def (a b : AttrValue) : (a == b) = beq a b := rfl

/-- Lists of values are equal exactly when they agree item by item. -/
theorem beqAll_eq_beq (xs ys : List AttrValue) : beqAll xs ys = (xs == ys) := by
  induction xs generalizing ys with
  | nil => cases ys <;> rfl
  | cons x xs ih =>
    cases ys with
    | nil => rfl
    | cons y ys => rw [beqAll, ih, List.cons_beq_cons, beq_def]

/-- Lists are equal as values exactly when they are equal as lists. -/
theorem list_beq_list (xs ys : List AttrValue) : (list xs == list ys) = (xs == ys) := by
  rw [beq_def, beq, beqAll_eq_beq]

end AttrValue

end OperatorIR
