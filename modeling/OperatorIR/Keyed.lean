/-!
# Entries by name

Attributes and extenders are held as lists of entries, each a value behind its name. The value
under a name is that of the first entry with the name.

## Main definitions

* `OperatorIR.Keyed` — lists of entries.
* `OperatorIR.Keyed.names` — the names in the order of the entries.

## Main results

* `OperatorIR.Keyed.lookup_cons_eq_ite` — a look-up, entry by entry.
* `OperatorIR.Keyed.isSome_lookup_iff` — a look-up succeeds exactly under the names.
* `OperatorIR.Keyed.lookup_eq_some_iff_mem` — with distinct names it finds exactly the entries.
* `OperatorIR.Keyed.lookup_eq_of_perm` — with distinct names their order does not matter.
-/

set_option autoImplicit false

namespace OperatorIR

/-- Values behind their names. -/
abbrev Keyed (α : Type) := List (String × α)

namespace Keyed

variable {α : Type}

/-- The names in the order of the entries. -/
def names (entries : Keyed α) : List String := entries.map Prod.fst

/-- The names of no entries. -/
@[simp] theorem names_nil : names ([] : Keyed α) = [] := rfl

/-- The names of entries, one by one. -/
@[simp] theorem names_cons (entry : String × α) (rest : Keyed α) :
    names (entry :: rest) = entry.1 :: names rest := rfl

/-- The value under a name is that of the first entry with the name. -/
theorem lookup_cons_eq_ite (entry : String × α) (rest : Keyed α) (k : String) :
    List.lookup k (entry :: rest) = if k = entry.1 then some entry.2 else rest.lookup k := by
  obtain ⟨j, a⟩ := entry
  rw [List.lookup_cons]
  by_cases h : k = j
  · simp [h]
  · have hb : (k == j) = false := by simpa using h
    simp [h, hb]

/-- A look-up succeeds exactly under the names of the entries. -/
theorem isSome_lookup_iff (k : String) (entries : Keyed α) :
    (entries.lookup k).isSome = true ↔ k ∈ entries.names := by
  induction entries with
  | nil => simp
  | cons entry rest ih =>
    rw [lookup_cons_eq_ite, names_cons, List.mem_cons, ← ih]
    by_cases h : k = entry.1 <;> simp [h]

/-- With distinct names a look-up finds exactly the entries. -/
theorem lookup_eq_some_iff_mem {entries : Keyed α} (hd : entries.names.Nodup) (k : String)
    (a : α) : entries.lookup k = some a ↔ (k, a) ∈ entries := by
  induction entries with
  | nil => simp
  | cons entry rest ih =>
    obtain ⟨j, b⟩ := entry
    obtain ⟨hj, hrest⟩ := List.nodup_cons.1 (names_cons (j, b) rest ▸ hd)
    rw [lookup_cons_eq_ite, List.mem_cons, ← ih hrest]
    by_cases h : k = j
    · subst h
      have hn : List.lookup k rest = none := by
        rw [← Option.not_isSome_iff_eq_none, isSome_lookup_iff]
        exact hj
      simp [hn, eq_comm]
    · simp [h]

/-- With distinct names the order of the entries does not matter. -/
theorem lookup_eq_of_perm {xs ys : Keyed α} (h : xs.Perm ys) (hd : xs.names.Nodup) (k : String) :
    xs.lookup k = ys.lookup k := by
  have hd' : ys.names.Nodup := (h.map Prod.fst).nodup_iff.1 hd
  apply Option.ext
  intro a
  rw [lookup_eq_some_iff_mem hd, lookup_eq_some_iff_mem hd', h.mem_iff]

end Keyed

end OperatorIR
