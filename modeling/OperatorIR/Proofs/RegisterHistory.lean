import OperatorIR.Proofs.Insertions
import OperatorIR.Register

/-!
# Registers by their history

A register comes about by insertions, by adding the standard extenders, by copying, and by merging
in other registers, which have histories of their own. What it holds in the end is, for each kind,
the extender that was inserted last, where a merge counts as one insertion of each entry that the
other register holds at that time.

## Main definitions

* `OperatorIR.Register.Rearranges` — two registers hold the same entries in different orders.
* `OperatorIR.Register.History` — how a register came about.
* `OperatorIR.Register.History.Builds` — a register that can come out of a history.
* `OperatorIR.Register.History.insertions` — the insertions that a history amounts to.

## Main results

* `OperatorIR.Register.get?_insertAll`, `get?_merge` — a look-up after many insertions.
* `OperatorIR.Register.holds_last_insertions` — what is built holds the last insertions.

## Design

Nothing is known about the order in which a register enumerates its entries. So a history does not
determine the register that is built: wherever the entries of a register are gone through or
copied, any register with the same entries in another order may stand for it.
-/

set_option autoImplicit false

namespace OperatorIR.Register

/-! ## The order of the entries -/

/-- The two registers hold the same entries, each in an order of its own. -/
def Rearranges (r s : Register) : Prop := r.entries.Perm s.entries

/-- The order of the entries does not matter to a look-up. -/
theorem Rearranges.get?_eq {r s : Register} (h : r.Rearranges s) (k : String) :
    r.get? k = s.get? k :=
  Keyed.lookup_eq_of_perm h r.distinct k

/-! ## Look-up after many insertions -/

/-- Of many insertions the last one for a kind counts; without one, what was there before. -/
theorem get?_insertAll (r : Register) (entries : Keyed Extender) (k : String) :
    (r.insertAll entries).value.get? k = (entries.last? k).or (r.get? k) := by
  induction entries generalizing r with
  | nil => rfl
  | cons entry rest ih =>
    rw [insertAll, Logged.value_andThen, ih, get?_insert, Keyed.last?_cons, Option.or_assoc]
    by_cases h : k = entry.1 <;> simp [h]

/-- After a merge the entries of the other register come first. -/
theorem get?_merge (r s : Register) (k : String) :
    (r.merge s).value.get? k = (s.get? k).or (r.get? k) := by
  rw [merge, get?_insertAll, Keyed.last?_eq_lookup s.distinct]
  rfl

/-! ## Histories -/

/-- How a register came about: it is new, or comes from a past register by an insertion, by
adding the standard extenders, by copying, or by merging in another register with a history of
its own. -/
inductive History where
  | empty
  | insert (past : History) (kind : String) (f : Extender)
  | addStandard (past : History)
  | copy (past : History)
  | merge (past other : History)

namespace History

/-- The register can come out of the history, whatever the order in which registers go through
their entries: a copy has them in an order of its own, and a merge goes through the other register
in any order. -/
inductive Builds : History → Register → Prop
  | empty : Builds .empty .empty
  | insert {past : History} {r : Register} (kind : String) (f : Extender) (hr : Builds past r) :
      Builds (.insert past kind f) (r.insert kind f).value
  | addStandard {past : History} {r : Register} (hr : Builds past r) :
      Builds (.addStandard past) r.addStandard.value
  | copy {past : History} {r s : Register} (hr : Builds past r) (h : r.Rearranges s) :
      Builds (.copy past) s
  | merge {past other : History} {r s t : Register} (hr : Builds past r) (hs : Builds other s)
      (h : s.Rearranges t) : Builds (.merge past other) (r.merge t).value

/-- The insertions that the history amounts to, in order. A merge inserts each entry that the
other register then holds. -/
def insertions : History → Keyed Extender
  | empty => []
  | insert past kind f => insertions past ++ [(kind, f)]
  | addStandard past => insertions past ++ [(bucketizeOp, Extender.resolveOutputType)]
  | copy past => insertions past
  | merge past other => insertions past ++ (insertions other).lasting

/-- Some register comes out of every history. -/
theorem exists_builds (h : History) : ∃ r, h.Builds r := by
  induction h with
  | empty => exact ⟨_, .empty⟩
  | insert past kind f ih =>
    obtain ⟨r, hr⟩ := ih
    exact ⟨_, .insert kind f hr⟩
  | addStandard past ih =>
    obtain ⟨r, hr⟩ := ih
    exact ⟨_, .addStandard hr⟩
  | copy past ih =>
    obtain ⟨r, hr⟩ := ih
    exact ⟨r, .copy hr (List.Perm.refl _)⟩
  | merge past other ihr ihs =>
    obtain ⟨r, hr⟩ := ihr
    obtain ⟨s, hs⟩ := ihs
    exact ⟨_, .merge hr hs (List.Perm.refl _)⟩

/-- **What is built** has, for each kind, the extender of the last insertion.

**Proof sketch.** Induction on how the register was built. An insertion, or the entries of a merge,
come after all that was inserted before; a merged register is searched in the order in which it
was enumerated, which does not matter because its kinds are distinct. -/
theorem Builds.get?_eq {h : History} {r : Register} (hr : h.Builds r) (k : String) :
    r.get? k = h.insertions.last? k := by
  induction hr with
  | empty => rfl
  | insert kind f hr ih =>
    rw [get?_insert, insertions, Keyed.last?_append, Keyed.last?_singleton, ← ih]
    split <;> rfl
  | addStandard hr ih =>
    rw [Register.addStandard, get?_insert, insertions, Keyed.last?_append, Keyed.last?_singleton,
      ← ih]
    split <;> rfl
  | copy hr hs ih => rw [← hs.get?_eq, ih, insertions]
  | merge hr hs ht ihr ihs =>
    rw [get?_merge, ← ht.get?_eq, ihr, ihs, insertions, Keyed.last?_append, Keyed.last?_lasting]

/-- The entries of what is built are the lasting insertions, in some order. -/
theorem Builds.entries_perm {h : History} {r : Register} (hr : h.Builds r) :
    r.entries.Perm h.insertions.lasting :=
  Keyed.perm_lasting r.distinct hr.get?_eq

/-- Nothing is found exactly for the kinds that were never inserted. -/
theorem Builds.get?_eq_none_iff {h : History} {r : Register} (hr : h.Builds r) (k : String) :
    r.get? k = none ↔ k ∉ h.insertions.names := by
  rw [hr.get?_eq, ← Keyed.isSome_last?_iff, Option.not_isSome_iff_eq_none]

/-- What is inserted for other kinds, one by one or by a merge, leaves a kind alone. -/
theorem Builds.get?_eq_of_not_mem {past later : History} {r s : Register} {added : Keyed Extender}
    (hr : past.Builds r) (hs : later.Builds s)
    (hl : later.insertions = past.insertions ++ added) {k : String} (hk : k ∉ added.names) :
    s.get? k = r.get? k := by
  have hn : added.last? k = none := by
    rwa [← Option.not_isSome_iff_eq_none, Keyed.isSome_last?_iff]
  rw [hs.get?_eq, hr.get?_eq, hl, Keyed.last?_append, hn, Option.none_or]

end History

/-! ## What a register holds -/

/-- **A register is its history.** Some register comes out of every history, and whichever does
holds exactly the lasting insertions: a look-up finds the extender inserted last for the kind, and
fails if there was none; `contains` and `kinds` agree with it. Insertions and merges under kinds
that differ in some character do not touch the kind. -/
theorem holds_last_insertions (h : History) :
    (∃ r, h.Builds r) ∧
      ∀ r, h.Builds r →
        r.entries.Perm h.insertions.lasting ∧
          ∀ k : String,
            r.get? k = h.insertions.last? k ∧
            (r.get? k = none ↔ k ∉ h.insertions.names) ∧
            (r.contains k = true ↔ (r.get? k).isSome = true) ∧
            ((r.get? k).isSome = true ↔ k ∈ r.kinds) ∧
            (∀ (j : String) (f : Extender) (s : Register), j.toList ≠ k.toList →
              (h.insert j f).Builds s → s.get? k = r.get? k) ∧
            ∀ (other : History) (s : Register),
              (∀ j ∈ other.insertions.names, j.toList ≠ k.toList) →
              (h.merge other).Builds s → s.get? k = r.get? k := by
  refine ⟨h.exists_builds, ?_⟩
  intro r hr
  refine ⟨hr.entries_perm, ?_⟩
  intro k
  refine ⟨hr.get?_eq k, hr.get?_eq_none_iff k, Iff.rfl, (r.mem_kinds_iff k).symm, ?_, ?_⟩
  · intro j f s hj hs
    have hk : k ∉ Keyed.names [(j, f)] := by
      intro hk
      rw [Keyed.names_cons, Keyed.names_nil, List.mem_singleton] at hk
      exact hj (congrArg String.toList hk.symm)
    exact hr.get?_eq_of_not_mem hs rfl hk
  · intro other s ho hs
    have hk : k ∉ Keyed.names other.insertions.lasting := by
      intro hk
      exact ho k ((Keyed.mem_names_lasting _ k).1 hk) rfl
    exact hr.get?_eq_of_not_mem hs rfl hk

end OperatorIR.Register
