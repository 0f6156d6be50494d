import OperatorIR.Extender.OutputType
import OperatorIR.Keyed

/-!
# Registers of extenders

A register holds at most one extender for each kind of node. A new extender for a kind replaces
the one that is there, and the log says so. Merging one register into another inserts all entries
of the first, in whatever order it holds them.

## Main definitions

* `OperatorIR.Register` — entries with distinct kinds.
* `OperatorIR.Register.get?`, `contains`, `kinds` — look-up, test, and the kinds in order.
* `OperatorIR.Register.insert`, `insertAll`, `merge` — the ways to add entries.
* `OperatorIR.Register.addStandard` — adds the extenders that every reader begins with.

## Main results

* `OperatorIR.Register.get?_insert` — a look-up after an insertion.
* `OperatorIR.Register.log_insert` — what an insertion logs.
* `OperatorIR.Register.mem_kinds_iff`, `sorted_kinds` — the kinds are those that are found, in
  ascending order.

## Design

The order of the entries is not part of what a register means: look-ups do not depend on it, and
kinds are sorted before they are shown. A register keeps the order of first insertion, and a merge
goes through it; the lines that a merge logs come in that order.
-/

set_option autoImplicit false

namespace OperatorIR

/-! ## Entries with distinct kinds -/

namespace Register

/-- The entries with the extender for a kind replaced, or added at the end. -/
def put (kind : String) (f : Extender) : Keyed Extender → Keyed Extender
  | [] => [(kind, f)]
  | entry :: rest => if kind = entry.1 then (kind, f) :: rest else entry :: put kind f rest

/-- A look-up after an entry was put. -/
theorem lookup_put (kind : String) (f : Extender) (entries : Keyed Extender) (k : String) :
    (put kind f entries).lookup k = if k = kind then some f else entries.lookup k := by
  induction entries with
  | nil => simp [put, Keyed.lookup_cons_eq_ite]
  | cons entry rest ih =>
    unfold put
    split
    next h =>
      subst h
      by_cases hk : k = entry.1 <;> simp [Keyed.lookup_cons_eq_ite, hk]
    next h =>
      rw [Keyed.lookup_cons_eq_ite, Keyed.lookup_cons_eq_ite, ih]
      by_cases hk : k = entry.1
      · subst hk
        simp [Ne.symm h]
      · simp [hk]

/-- The kinds after an entry was put. -/
theorem names_put (kind : String) (f : Extender) (entries : Keyed Extender) :
    (put kind f entries).names =
      if kind ∈ entries.names then entries.names else entries.names ++ [kind] := by
  induction entries with
  | nil => simp [put]
  | cons entry rest ih =>
    unfold put
    split
    next h => simp [h]
    next h =>
      rw [Keyed.names_cons, Keyed.names_cons, ih]
      by_cases hk : kind ∈ Keyed.names rest <;> simp [hk, h]

/-- Putting an entry keeps the kinds distinct. -/
theorem nodup_put (kind : String) (f : Extender) {entries : Keyed Extender}
    (h : entries.names.Nodup) : (put kind f entries).names.Nodup := by
  rw [names_put]
  split
  · exact h
  next hk =>
    rw [List.nodup_append]
    refine ⟨h, by simp, ?_⟩
    intro a ha b hb hab
    rw [List.mem_singleton.1 hb] at hab
    exact hk (hab ▸ ha)

end Register

/-! ## Registers -/

/-- The extenders by the kind of node. -/
structure Register where
  /-- The entries, in an order that has no meaning. -/
  entries : Keyed Extender
  /-- No kind has two entries. -/
  distinct : entries.names.Nodup

namespace Register

/-- The register without entries. -/
def empty : Register := ⟨[], List.nodup_nil⟩

/-- The extender for a kind. -/
def get? (r : Register) (kind : String) : Option Extender := r.entries.lookup kind

/-- Is there an extender for the kind? -/
def contains (r : Register) (kind : String) : Bool := (r.get? kind).isSome

/-- The kinds in ascending order. -/
def kinds (r : Register) : List String :=
  r.entries.names.mergeSort fun a b => decide (a ≤ b)

/-- The line that is logged when an extender is replaced. -/
def overriding (kind : String) : LogLine := ⟨.debug, "Overriding extender for " ++ kind⟩

/-- The register with an extender for a kind; a line is logged if it replaces another. -/
def insert (r : Register) (kind : String) (f : Extender) : Logged Register :=
  ⟨⟨put kind f r.entries, nodup_put kind f r.distinct⟩,
    if r.contains kind then [overriding kind] else []⟩

/-- The register with all the entries inserted, one after the other. -/
def insertAll (r : Register) : Keyed Extender → Logged Register
  | [] => .quiet r
  | entry :: rest => (r.insert entry.1 entry.2).andThen fun s => s.insertAll rest

/-- The register with all entries of another inserted. -/
def merge (r other : Register) : Logged Register := r.insertAll other.entries

/-- The register with the extenders that every reader begins with. -/
def addStandard (r : Register) : Logged Register :=
  r.insert bucketizeOp Extender.resolveOutputType

/-- The register in text: its kinds in ascending order, as they are. -/
def text (r : Register) : String := "ExtenderRegister(" ++ ", ".intercalate r.kinds ++ ")"

/-! ## Look-up -/

/-- Nothing is found in the empty register. -/
@[simp] theorem get?_empty (k : String) : empty.get? k = none := rfl

/-- A look-up after an insertion. -/
theorem get?_insert (r : Register) (kind : String) (f : Extender) (k : String) :
    (r.insert kind f).value.get? k = if k = kind then some f else r.get? k :=
  lookup_put kind f r.entries k

/-- An insertion logs one line if the kind is there, and none otherwise. -/
theorem log_insert (r : Register) (kind : String) (f : Extender) :
    (r.insert kind f).log = if r.contains kind then [overriding kind] else [] := rfl

/-- Inserting entries after others is inserting both lists. -/
theorem insertAll_append (r : Register) (xs ys : Keyed Extender) :
    r.insertAll (xs ++ ys) = (r.insertAll xs).andThen fun s => s.insertAll ys := by
  induction xs generalizing r with
  | nil => rfl
  | cons x xs ih => simp [insertAll, Logged.andThen, ih]

/-! ## Kinds -/

/-- The kinds are those for which there is an extender. -/
theorem mem_kinds_iff (r : Register) (kind : String) :
    kind ∈ r.kinds ↔ r.contains kind = true := by
  rw [kinds, List.mem_mergeSort]
  exact (Keyed.isSome_lookup_iff kind r.entries).symm

/-- The kinds are in ascending order. -/
theorem sorted_kinds (r : Register) : r.kinds.Pairwise fun a b => a ≤ b := by
  have trans : ∀ a b c : String, decide (a ≤ b) = true → decide (b ≤ c) = true →
      decide (a ≤ c) = true := fun a b c => by simpa using String.le_trans
  have total : ∀ a b : String, (decide (a ≤ b) || decide (b ≤ a)) = true := fun a b => by
    simpa using String.le_total a b
  have h := List.pairwise_mergeSort trans total r.entries.names
  simpa [kinds] using h

/-- No kind is listed twice. -/
theorem nodup_kinds (r : Register) : r.kinds.Nodup :=
  (List.mergeSort_perm _ _).nodup_iff.2 r.distinct

end Register

end OperatorIR
