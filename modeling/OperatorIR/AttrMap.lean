import OperatorIR.AttrValue.Equality
import OperatorIR.Keyed

/-!
# Attribute maps

The attributes of a node by name. The entries are kept in ascending order of their names, each
name once, where names are ordered by their code points; so two maps with the same attributes are
the same map, whatever the history of writes.

## Main definitions

* `OperatorIR.AttrMap.Ascending` — entries in ascending order of their names.
* `OperatorIR.AttrMap` — maps from names to attribute values.
* `OperatorIR.AttrMap.get?`, `contains`, `insert`, `keys` — look-up, test, write, and the names in
  order.

## Main results

* `OperatorIR.AttrMap.get?_insert` — a look-up after a write.
* `OperatorIR.AttrMap.mem_keys_iff` — the names are those for which look-up succeeds.
* `OperatorIR.AttrMap.ext_get?` — maps that agree at every look-up are equal.
-/

set_option autoImplicit false

namespace OperatorIR

namespace AttrMap

/-! ## Entries in order -/

/-- The entries are in ascending order of their names. -/
def Ascending (entries : Keyed AttrValue) : Prop := entries.Pairwise fun a b => a.1 < b.1

/-- The entries with a value written under a name, in its place in the order. -/
def put (key : String) (value : AttrValue) : Keyed AttrValue → Keyed AttrValue
  | [] => [(key, value)]
  | entry :: rest =>
    if key < entry.1 then (key, value) :: entry :: rest
    else if key = entry.1 then (key, value) :: rest
    else entry :: put key value rest

/-- The names after a write are those before it and the one written. -/
theorem mem_names_put {key : String} {value : AttrValue} {entries : Keyed AttrValue}
    {k : String} : k ∈ (put key value entries).names ↔ k = key ∨ k ∈ entries.names := by
  induction entries with
  | nil => simp [put]
  | cons entry rest ih =>
    unfold put
    split
    · simp
    · split
      next h => simp [h]
      next =>
        rw [Keyed.names_cons, Keyed.names_cons, List.mem_cons, List.mem_cons, ih]
        exact or_left_comm

/-- A write keeps the order. -/
theorem put_ascending (key : String) (value : AttrValue) {entries : Keyed AttrValue}
    (h : Ascending entries) : Ascending (put key value entries) := by
  induction entries with
  | nil => exact List.pairwise_singleton _ _
  | cons entry rest ih =>
    obtain ⟨hlt, hrest⟩ := List.pairwise_cons.1 h
    unfold put
    split
    next hk =>
      refine List.pairwise_cons.2 ⟨?_, h⟩
      intro e he
      rcases List.mem_cons.1 he with rfl | he
      · exact hk
      · exact String.lt_trans hk (hlt e he)
    next hk =>
      split
      next heq =>
        subst heq
        exact List.pairwise_cons.2 ⟨hlt, hrest⟩
      next hne =>
        refine List.pairwise_cons.2 ⟨?_, ih hrest⟩
        intro e he
        rcases mem_names_put.1 (List.mem_map_of_mem he) with hkey | hold
        · rw [hkey]
          refine Decidable.byContradiction fun hn => hne ?_
          exact String.le_antisymm (String.not_lt.1 hn) (String.not_lt.1 hk)
        · obtain ⟨e', he', heq⟩ := List.mem_map.1 hold
          rw [← heq]
          exact hlt e' he'

/-- A look-up after a write. -/
theorem lookup_put (key : String) (value : AttrValue) (entries : Keyed AttrValue) (k : String) :
    (put key value entries).lookup k = if k = key then some value else entries.lookup k := by
  induction entries with
  | nil => simp [put, Keyed.lookup_cons_eq_ite]
  | cons entry rest ih =>
    unfold put
    split
    · rw [Keyed.lookup_cons_eq_ite]
    · split
      next h =>
        subst h
        by_cases hk : k = entry.1 <;> simp [Keyed.lookup_cons_eq_ite, hk]
      next h =>
        rw [Keyed.lookup_cons_eq_ite, Keyed.lookup_cons_eq_ite, ih]
        by_cases hk : k = entry.1
        · subst hk
          simp [Ne.symm h]
        · simp [hk]

/-- Nothing is found under a name before the first. -/
private theorem lookup_eq_none_of_lt {k : String} {entries : Keyed AttrValue}
    (h : ∀ e ∈ entries, k < e.1) : entries.lookup k = none := by
  rw [← Option.not_isSome_iff_eq_none, Keyed.isSome_lookup_iff]
  intro hmem
  obtain ⟨e, he, heq⟩ := List.mem_map.1 hmem
  exact String.lt_irrefl _ (heq ▸ h e he)

/-- When two lists in order agree at every look-up, the first name of one is at most that of the
other. -/
private theorem first_le {x y : String × AttrValue} {xs ys : Keyed AttrValue}
    (hy : ∀ e ∈ ys, y.1 < e.1)
    (h : ∀ k, List.lookup k (x :: xs) = List.lookup k (y :: ys)) : y.1 ≤ x.1 := by
  have hmem : x.1 ∈ Keyed.names (y :: ys) := by
    rw [← Keyed.isSome_lookup_iff, ← h x.1]
    simp [Keyed.lookup_cons_eq_ite]
  rcases List.mem_cons.1 hmem with heq | hmem
  · exact heq ▸ String.le_refl _
  · obtain ⟨e, he, heq⟩ := List.mem_map.1 hmem
    rw [← heq]
    exact String.not_lt.1 fun hlt => String.lt_irrefl _ (String.lt_trans hlt (hy e he))

/-- Entries in order that agree at every look-up are the same. -/
theorem ext_lookup {xs ys : Keyed AttrValue} (hx : Ascending xs) (hy : Ascending ys)
    (h : ∀ k, xs.lookup k = ys.lookup k) : xs = ys := by
  induction xs generalizing ys with
  | nil =>
    cases ys with
    | nil => rfl
    | cons y ys => simpa [Keyed.lookup_cons_eq_ite] using h y.1
  | cons x xs ih =>
    cases ys with
    | nil => simpa [Keyed.lookup_cons_eq_ite] using h x.1
    | cons y ys =>
      obtain ⟨hx1, hx2⟩ := List.pairwise_cons.1 hx
      obtain ⟨hy1, hy2⟩ := List.pairwise_cons.1 hy
      have hkey : x.1 = y.1 :=
        String.le_antisymm (first_le hx1 fun k => (h k).symm) (first_le hy1 h)
      have hval : x.2 = y.2 := by simpa [Keyed.lookup_cons_eq_ite, hkey] using h x.1
      obtain rfl : x = y := Prod.ext hkey hval
      rw [ih hx2 hy2]
      intro k
      by_cases hk : k = x.1
      · rw [hk, lookup_eq_none_of_lt hx1, lookup_eq_none_of_lt hy1]
      · simpa [Keyed.lookup_cons_eq_ite, hk] using h k

end AttrMap

/-! ## Maps -/

/-- The attributes of a node by name. -/
structure AttrMap where
  /-- The entries in ascending order of their names. -/
  entries : Keyed AttrValue
  /-- Each name stands once, after all smaller ones. -/
  ascending : AttrMap.Ascending entries

namespace AttrMap

/-- The map without entries. -/
def empty : AttrMap := ⟨[], List.Pairwise.nil⟩

/-- The value under a name. -/
def get? (m : AttrMap) (key : String) : Option AttrValue := m.entries.lookup key

/-- Is there a value under the name? -/
def contains (m : AttrMap) (key : String) : Bool := (m.get? key).isSome

/-- The map with a value written under a name, in the place of an earlier one. -/
def insert (m : AttrMap) (key : String) (value : AttrValue) : AttrMap :=
  ⟨put key value m.entries, put_ascending key value m.ascending⟩

/-- The names in ascending order. -/
def keys (m : AttrMap) : List String := m.entries.names

/-- Maps are equal when their entries are: the same names with equal values. -/
instance : BEq AttrMap := ⟨fun a b => a.entries == b.entries⟩

/-- Nothing is found in the empty map. -/
@[simp] theorem get?_empty (k : String) : empty.get? k = none := rfl

/-- A look-up after a write. -/
theorem get?_insert (m : AttrMap) (key : String) (value : AttrValue) (k : String) :
    (m.insert key value).get? k = if k = key then some value else m.get? k :=
  lookup_put key value m.entries k

/-- The names are those for which look-up succeeds. -/
theorem mem_keys_iff (m : AttrMap) (k : String) : k ∈ m.keys ↔ (m.get? k).isSome = true :=
  (Keyed.isSome_lookup_iff k m.entries).symm

/-- Maps that agree at every look-up are the same. -/
theorem ext_get? {a b : AttrMap} (h : ∀ k, a.get? k = b.get? k) : a = b := by
  obtain ⟨xs, hx⟩ := a
  obtain ⟨ys, hy⟩ := b
  obtain rfl : xs = ys := ext_lookup hx hy h
  rfl

end AttrMap

end OperatorIR
