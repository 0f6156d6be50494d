import Mathlib.Data.List.Nodup
import OperatorIR.Keyed

/-!
# Sequences of insertions

A sequence of insertions under names is a list of entries in the order of time. What it leaves
behind is, under each name, the value of the last insertion; earlier ones under the name are lost.

## Main definitions

* `OperatorIR.Keyed.last?` — the value of the last entry under a name.
* `OperatorIR.Keyed.lasting` — the entries that no later one replaces.

## Main results

* `OperatorIR.Keyed.last?_append` — the later of two sequences goes first.
* `OperatorIR.Keyed.last?_eq_lookup` — with distinct names the last entry is the first.
* `OperatorIR.Keyed.last?_lasting`, `OperatorIR.Keyed.nodup_names_lasting` — the lasting entries
  leave behind what the whole sequence does, each name once.
-/

set_option autoImplicit false

namespace OperatorIR.Keyed

variable {α : Type}

/-! ## The last entry under a name -/

/-- The value of the last entry under a name. -/
def last? (entries : Keyed α) (k : String) : Option α := entries.reverse.lookup k

/-- The later of two sequences goes first. -/
theorem last?_append (xs ys : Keyed α) (k : String) :
    last? (xs ++ ys) k = (last? ys k).or (last? xs k) := by
  rw [last?, List.reverse_append, List.lookup_append]
  rfl

/-- One entry leaves its value under its name, and nothing under any other. -/
theorem last?_singleton (entry : String × α) (k : String) :
    last? [entry] k = if k = entry.1 then some entry.2 else none := by
  simp [last?, lookup_cons_eq_ite]

/-- An entry counts if no later one has its name. -/
theorem last?_cons (entry : String × α) (rest : Keyed α) (k : String) :
    last? (entry :: rest) k = (last? rest k).or (if k = entry.1 then some entry.2 else none) := by
  rw [← last?_singleton, ← last?_append]
  rfl

/-- Something is left behind exactly under the names of the entries. -/
theorem isSome_last?_iff (entries : Keyed α) (k : String) :
    (last? entries k).isSome = true ↔ k ∈ names entries := by
  rw [last?, isSome_lookup_iff]
  simp [names]

/-- With distinct names the last entry under a name is the first. -/
theorem last?_eq_lookup {entries : Keyed α} (hd : entries.names.Nodup) (k : String) :
    last? entries k = entries.lookup k := by
  have hr : (names entries.reverse).Nodup := by
    simpa [names] using List.nodup_reverse.2 hd
  exact lookup_eq_of_perm (List.reverse_perm entries) hr k

/-! ## The entries that last -/

/-- The entries that no later one of the same name replaces. -/
def lasting : Keyed α → Keyed α
  | [] => []
  | entry :: rest => if entry.1 ∈ names rest then lasting rest else entry :: lasting rest

/-- The names are those of all entries. -/
theorem mem_names_lasting (entries : Keyed α) (k : String) :
    k ∈ names (lasting entries) ↔ k ∈ names entries := by
  induction entries with
  | nil => rfl
  | cons entry rest ih =>
    unfold lasting
    split
    next h =>
      rw [ih, names_cons, List.mem_cons]
      refine ⟨Or.inr, ?_⟩
      rintro (rfl | hk)
      · exact h
      · exact hk
    next => rw [names_cons, names_cons, List.mem_cons, List.mem_cons, ih]

/-- Each name lasts once. -/
theorem nodup_names_lasting (entries : Keyed α) : (lasting entries).names.Nodup := by
  induction entries with
  | nil => exact List.nodup_nil
  | cons entry rest ih =>
    unfold lasting
    split
    · exact ih
    next h =>
      rw [names_cons, List.nodup_cons, mem_names_lasting]
      exact ⟨h, ih⟩

example : lasting [("a", 1), ("b", 2), ("a", 3)] = [("b", 2), ("a", 3)] := by decide

/-- The lasting entries leave behind what the whole sequence does. -/
@[simp] theorem last?_lasting (entries : Keyed α) (k : String) :
    last? (lasting entries) k = last? entries k := by
  induction entries with
  | nil => rfl
  | cons entry rest ih =>
    unfold lasting
    split
    next h =>
      rw [ih, last?_cons]
      by_cases hk : k = entry.1
      · -- a later entry has the name, so the first one does not count
        obtain ⟨a, ha⟩ := Option.isSome_iff_exists.1 ((isSome_last?_iff rest k).2 (hk ▸ h))
        simp [ha]
      · simp [hk]
    next => rw [last?_cons, last?_cons, ih]

/-- Entries with distinct names that are found alike are the same, in some order. -/
theorem perm_of_lookup_eq {xs ys : Keyed α} (hx : xs.names.Nodup) (hy : ys.names.Nodup)
    (h : ∀ k, xs.lookup k = ys.lookup k) : xs.Perm ys := by
  have hxs : xs.Nodup := List.Nodup.of_map Prod.fst hx
  have hys : ys.Nodup := List.Nodup.of_map Prod.fst hy
  rw [List.perm_ext_iff_of_nodup hxs hys]
  rintro ⟨k, a⟩
  -- an entry of either list is what a look-up of its name finds there
  rw [← lookup_eq_some_iff_mem hx, ← lookup_eq_some_iff_mem hy, h]

/-- Entries with distinct names, found as a sequence leaves them behind, are its lasting ones. -/
theorem perm_lasting {entries : Keyed α} (hd : entries.names.Nodup) {insertions : Keyed α}
    (h : ∀ k, entries.lookup k = last? insertions k) : entries.Perm (lasting insertions) := by
  have hl := nodup_names_lasting insertions
  refine perm_of_lookup_eq hd hl fun k => ?_
  rw [← last?_eq_lookup hl, last?_lasting, h]

end OperatorIR.Keyed
