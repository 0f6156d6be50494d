import OperatorIR.Proofs.OutlineReading

/-!
# Parts between separators

Some texts are written as they are, one behind the other with a comma and a blank in between.
Nothing marks where such a text ends, and the separator could as well be a piece of it. If no text
has the separator inside, each one ends where the separator first comes, even if it ends in a comma
itself, or the next one begins with a blank.

## Main definitions

* `OperatorIR.Text.separator` — the comma and the blank.
* `OperatorIR.Text.Unseparated` — a text that does not have them in a row.
* `OperatorIR.Text.EndsPart` — what can stand behind a part.

## Main results

* `OperatorIR.Text.unseparated_append_inj` — a text without separators tells where it ends.
* `OperatorIR.Text.joined_inj` — lists of such texts, none of them empty, are told apart.
-/

set_option autoImplicit false

namespace OperatorIR.Text

/-- What stands between two parts. -/
def separator : List Char := [',', ' ']

/-- The text has the separator nowhere inside. -/
def Unseparated (text : String) : Prop := ¬ separator <:+: text.toList

/-- It can be decided whether a text has the separator inside. -/
instance (text : String) : Decidable (Unseparated text) :=
  inferInstanceAs (Decidable (¬ separator <:+: text.toList))

/-! ## One part -/

/-- A part ends here: there are no more characters, or a separator comes. -/
def EndsPart (cs : List Char) : Prop := cs = [] ∨ ∃ ds, cs = separator ++ ds

/-- A part does not reach into what can stand behind a part.

**Proof sketch.** The first character of the overlap would be the comma of a separator. Then the
second one, if there is any, is the blank, and the part has the separator inside. If there is none,
the blank begins what stands behind the part, and that is no end of a part. -/
private theorem overlap_eq_nil {b : String} {cs u s t : List Char} (hb : Unseparated b)
    (hs : EndsPart s) (ht : EndsPart t) (hbu : b.toList = cs ++ u) (hsu : s = u ++ t) : u = [] := by
  cases u with
  | nil => rfl
  | cons c u =>
    rcases hs with rfl | ⟨ds, rfl⟩
    · exact absurd hsu.symm (List.cons_ne_nil _ _)
    · obtain ⟨rfl, hrest⟩ := List.cons.inj hsu
      cases u with
      | nil =>
        rcases ht with rfl | ⟨es, rfl⟩
        · exact absurd hrest (List.cons_ne_nil _ _)
        · exact absurd (List.cons.inj hrest).1 (by decide)
      | cons d u =>
        obtain ⟨rfl, -⟩ := List.cons.inj hrest
        have hinside : separator <:+: b.toList := by
          rw [hbu]
          exact ⟨cs, u, List.append_assoc _ _ _⟩
        exact absurd hinside hb

/-- **A text without separators** tells where it ends, if nothing or a separator follows. -/
theorem unseparated_append_inj {a b : String} {s t : List Char} (ha : Unseparated a)
    (hb : Unseparated b) (hs : EndsPart s) (ht : EndsPart t)
    (h : a.toList ++ s = b.toList ++ t) : a = b ∧ s = t := by
  rcases List.append_eq_append_iff.1 h with ⟨u, hbu, hsu⟩ | ⟨u, hau, htu⟩
  · obtain rfl := overlap_eq_nil hb hs ht hbu hsu
    rw [List.append_nil] at hbu
    exact ⟨(String.toList_inj.1 hbu).symm, hsu⟩
  · obtain rfl := overlap_eq_nil ha ht hs hau htu
    rw [List.append_nil] at hau
    exact ⟨String.toList_inj.1 hau, htu.symm⟩

/-! ## Lists of parts -/

/-- Parts, each behind a separator. -/
def behind (parts : List String) : List Char := parts.flatMap fun part => separator ++ part.toList

/-- The parts behind a part do not go on with it. -/
theorem endsPart_behind (parts : List String) : EndsPart (behind parts) := by
  cases parts with
  | nil => exact Or.inl rfl
  | cons part parts => exact Or.inr ⟨_, List.append_assoc _ _ _⟩

/-- Parts are told apart by the separators before them. -/
theorem behind_inj {xs ys : List String} (hx : ∀ x ∈ xs, Unseparated x)
    (hy : ∀ y ∈ ys, Unseparated y) (h : behind xs = behind ys) : xs = ys := by
  induction xs generalizing ys with
  | nil =>
    cases ys with
    | nil => rfl
    | cons y ys => exact absurd h.symm (List.cons_ne_nil _ _)
  | cons x xs ih =>
    cases ys with
    | nil => exact absurd h (List.cons_ne_nil _ _)
    | cons y ys =>
      have hrest : x.toList ++ behind xs = y.toList ++ behind ys := by
        simpa [behind] using h
      obtain ⟨rfl, htail⟩ := unseparated_append_inj (hx x List.mem_cons_self)
        (hy y List.mem_cons_self) (endsPart_behind xs) (endsPart_behind ys) hrest
      rw [ih (fun z hz => hx z (List.mem_cons_of_mem _ hz))
        (fun z hz => hy z (List.mem_cons_of_mem _ hz)) htail]

/-- The characters of parts that are written with separators in between. -/
theorem toList_joined (part : String) (parts : List String) :
    (", ".intercalate (part :: parts)).toList = part.toList ++ behind parts :=
  toList_intercalate_cons ", " part parts

/-- **Lists of parts are told apart** by their text, if no part is empty and none has a separator
inside. -/
theorem joined_inj {xs ys : List String} (hx : ∀ x ∈ xs, x ≠ "" ∧ Unseparated x)
    (hy : ∀ y ∈ ys, y ≠ "" ∧ Unseparated y) :
    ", ".intercalate xs = ", ".intercalate ys ↔ xs = ys := by
  -- one part at least makes a text that is not empty
  have hcons : ∀ (z : String) (zs : List String), z ≠ "" →
      ", ".intercalate [] ≠ ", ".intercalate (z :: zs) := by
    intro z zs hz h
    have hchars : [] = z.toList ++ behind zs := by rw [← toList_joined, ← h]; rfl
    exact hz (String.toList_eq_nil_iff.1 (List.append_eq_nil_iff.1 hchars.symm).1)
  refine ⟨fun h => ?_, congrArg _⟩
  cases xs with
  | nil =>
    cases ys with
    | nil => rfl
    | cons y ys => exact absurd h (hcons y ys (hy y List.mem_cons_self).1)
  | cons x xs =>
    cases ys with
    | nil => exact absurd h.symm (hcons x xs (hx x List.mem_cons_self).1)
    | cons y ys =>
      have hchars : x.toList ++ behind xs = y.toList ++ behind ys := by
        rw [← toList_joined, ← toList_joined, h]
      obtain ⟨rfl, hrest⟩ := unseparated_append_inj (hx x List.mem_cons_self).2
        (hy y List.mem_cons_self).2 (endsPart_behind xs) (endsPart_behind ys) hchars
      rw [behind_inj (fun z hz => (hx z (List.mem_cons_of_mem _ hz)).2)
        (fun z hz => (hy z (List.mem_cons_of_mem _ hz)).2) hrest]

end OperatorIR.Text
