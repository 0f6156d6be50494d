/-!
# Sets of code points as ascending ranges

A set of code points is given as a list of closed ranges `(first, last)` in ascending order, the
form in which Unicode publishes a property. The test walks the list and stops at the first range
that begins beyond the code point.

## Main definitions

* `OperatorIR.Text.isAscending` — each range is nonempty and ends before the next begins.
* `OperatorIR.Text.inRanges` — membership in the union of the ranges.

## Main results

* `OperatorIR.Text.inRanges_iff` — on ascending ranges the early stop loses nothing.
-/

set_option autoImplicit false

namespace OperatorIR.Text

/-- Each range is nonempty and ends before the next one begins. -/
def isAscending : List (Nat × Nat) → Bool
  | [] => true
  | [r] => decide (r.1 ≤ r.2)
  | r :: s :: rest => decide (r.1 ≤ r.2) && decide (r.2 < s.1) && isAscending (s :: rest)

/-- Is `n` in one of the ranges? The search ends at the first range beyond `n`. -/
def inRanges : List (Nat × Nat) → Nat → Bool
  | [], _ => false
  | r :: rest, n => if n < r.1 then false else if n ≤ r.2 then true else inRanges rest n

/-- The tail of an ascending list is ascending. -/
private theorem isAscending_tail {r : Nat × Nat} {rest : List (Nat × Nat)}
    (h : isAscending (r :: rest) = true) : isAscending rest = true := by
  cases rest with
  | nil => rfl
  | cons s rest =>
    simp only [isAscending, Bool.and_eq_true] at h
    exact h.2

/-- The first range of an ascending list is nonempty. -/
private theorem le_of_isAscending {r : Nat × Nat} {rest : List (Nat × Nat)}
    (h : isAscending (r :: rest) = true) : r.1 ≤ r.2 := by
  cases rest with
  | nil => simpa [isAscending] using h
  | cons s rest =>
    simp only [isAscending, Bool.and_eq_true, decide_eq_true_eq] at h
    exact h.1.1

/-- The first range of an ascending list lies before all the others. -/
private theorem lt_of_isAscending {r : Nat × Nat} {rest : List (Nat × Nat)}
    (h : isAscending (r :: rest) = true) : ∀ s ∈ rest, r.2 < s.1 := by
  induction rest generalizing r with
  | nil => simp
  | cons s rest ih =>
    have hs := le_of_isAscending (isAscending_tail h)
    have hrest := ih (isAscending_tail h)
    simp only [isAscending, Bool.and_eq_true, decide_eq_true_eq] at h
    intro t ht
    rcases List.mem_cons.1 ht with rfl | ht
    · exact h.1.2
    · exact Nat.lt_trans h.1.2 (Nat.lt_of_le_of_lt hs (hrest t ht))

/-- On ascending ranges the search finds exactly the members of the union. -/
theorem inRanges_iff {rs : List (Nat × Nat)} (h : isAscending rs = true) (n : Nat) :
    inRanges rs n = true ↔ ∃ r ∈ rs, r.1 ≤ n ∧ n ≤ r.2 := by
  induction rs with
  | nil => simp [inRanges]
  | cons r rest ih =>
    have hrest := ih (isAscending_tail h)
    have hlt := lt_of_isAscending h
    have hle := le_of_isAscending h
    by_cases h1 : n < r.1
    · simp only [inRanges, h1, if_true, Bool.false_eq_true, false_iff, not_exists, not_and]
      intro s hs hs1
      rcases List.mem_cons.1 hs with rfl | hs
      · omega
      · have := hlt s hs
        omega
    · by_cases h2 : n ≤ r.2
      · simp only [inRanges, h1, if_false, h2, if_true, true_iff]
        exact ⟨r, List.mem_cons_self, by omega, h2⟩
      · simp only [inRanges, h1, h2, if_false, hrest, List.mem_cons]
        constructor
        · rintro ⟨s, hs, hn⟩
          exact ⟨s, Or.inr hs, hn⟩
        · rintro ⟨s, rfl | hs, hn⟩
          · omega
          · exact ⟨s, hs, hn⟩

end OperatorIR.Text
