import Mathlib.Data.List.Perm.Subperm
import OperatorIR.Proofs.RegisterHistory

/-!
# The lines about overridden extenders

A register logs a line whenever an insertion replaces an extender, and at no other time. Over any
sequence of insertions and merges the lines therefore account for the insertions: each one either
adds a kind or is reported.

## Main definitions

* `OperatorIR.Register.Call` — an insertion or a merge.
* `OperatorIR.Register.Runs` — what a sequence of calls can do to a register, and what it logs.
* `OperatorIR.Register.inserted` — the kinds that a sequence of calls inserts.

## Main results

* `OperatorIR.Register.count_log_insertAll` — the number of lines about one kind.
* `OperatorIR.Register.length_log_insertAll` — lines and added kinds together.
* `OperatorIR.Register.Runs.exists_insertAll` — a run of calls is one sequence of insertions.
* `OperatorIR.Register.overrides_are_logged` — what every run of calls logs.
-/

set_option autoImplicit false

namespace OperatorIR.Register

/-! ## One insertion -/

/-- Lines about different kinds differ. -/
theorem overriding_inj {j k : String} : overriding j = overriding k ↔ j = k := by
  simp [overriding]

/-- After an insertion its kind is there, and all that were there before. -/
theorem contains_insert (r : Register) (kind : String) (f : Extender) (k : String) :
    (r.insert kind f).value.contains k = (decide (k = kind) || r.contains k) := by
  rw [contains, get?_insert]
  by_cases hk : k = kind <;> simp [hk, contains]

/-- How many lines an insertion logs about a kind: one if it is the kind, and it was there. -/
theorem count_log_insert (r : Register) (kind : String) (f : Extender) (k : String) :
    (r.insert kind f).log.count (overriding k) =
      if k = kind ∧ r.contains kind = true then 1 else 0 := by
  rw [log_insert]
  by_cases hc : r.contains kind = true
  · by_cases hk : k = kind
    · simp [hc, hk]
    · have hne : overriding kind ≠ overriding k := fun h => hk (overriding_inj.1 h).symm
      simp [hc, hk, List.count_cons_of_ne hne]
  · simp [hc]

/-- An insertion adds its kind if it logs nothing, and no kind otherwise. -/
theorem length_kinds_insert (r : Register) (kind : String) (f : Extender) :
    (r.insert kind f).log.length + (r.insert kind f).value.kinds.length = r.kinds.length + 1 := by
  have hmem : r.contains kind = true ↔ kind ∈ r.entries.names := Keyed.isSome_lookup_iff _ _
  have hnames : (r.insert kind f).value.entries.names =
      if kind ∈ r.entries.names then r.entries.names else r.entries.names ++ [kind] :=
    names_put kind f r.entries
  rw [log_insert, kinds, kinds, List.length_mergeSort, List.length_mergeSort, hnames]
  by_cases hk : kind ∈ r.entries.names
  · simp [hk, hmem.2 hk, Nat.add_comm]
  · simp [hk, mt hmem.1 hk]

/-! ## Many insertions -/

/-- Only lines about overridden kinds are logged. -/
theorem mem_log_insertAll {r : Register} {entries : Keyed Extender} {line : LogLine}
    (h : line ∈ (r.insertAll entries).log) : ∃ kind, line = overriding kind := by
  induction entries generalizing r with
  | nil => exact absurd h List.not_mem_nil
  | cons entry rest ih =>
    rw [insertAll, Logged.log_andThen, List.mem_append, log_insert] at h
    rcases h with h | h
    · split at h
      · exact ⟨entry.1, List.mem_singleton.1 h⟩
      · exact absurd h List.not_mem_nil
    · exact ih h

/-- **The number of lines about a kind** is the number of its insertions, less one if the kind was
not there before them.

**Proof sketch.** Induction on the entries. An insertion of another kind changes neither side. An
insertion of the kind logs a line if it is there; if it is not, it is there from then on, so no
later insertion is the one that is not reported. -/
theorem count_log_insertAll (r : Register) (entries : Keyed Extender) (k : String) :
    (r.insertAll entries).log.count (overriding k) +
        (if r.contains k = false ∧ k ∈ entries.names then 1 else 0) =
      entries.names.count k := by
  induction entries generalizing r with
  | nil => simp [insertAll, Logged.quiet]
  | cons entry rest ih =>
    obtain ⟨kind, f⟩ := entry
    have hrest := ih (r.insert kind f).value
    rw [contains_insert] at hrest
    rw [insertAll, Logged.log_andThen, List.count_append, count_log_insert, Keyed.names_cons]
    by_cases hk : k = kind
    · subst hk
      have hlater : List.count (overriding k) (((r.insert k f).value.insertAll rest).log) =
          List.count k (Keyed.names rest) := by simpa using hrest
      rw [hlater, List.count_cons_self]
      cases hc : r.contains k
      · simp
      · simp [Nat.add_comm]
    · have hne : kind ≠ k := fun h => hk h.symm
      simpa [hk, List.count_cons_of_ne hne] using hrest

/-- **Lines and kinds** account for the insertions: each adds a line or a kind. -/
theorem length_log_insertAll (r : Register) (entries : Keyed Extender) :
    (r.insertAll entries).log.length + (r.insertAll entries).value.kinds.length =
      r.kinds.length + entries.length := by
  induction entries generalizing r with
  | nil => simp [insertAll, Logged.quiet]
  | cons entry rest ih =>
    have hfirst := length_kinds_insert r entry.1 entry.2
    have hrest := ih (r.insert entry.1 entry.2).value
    rw [insertAll, Logged.log_andThen, Logged.value_andThen, List.length_append, List.length_cons]
    omega

/-- Insertions take no kind away. -/
theorem length_kinds_le_insertAll (r : Register) (entries : Keyed Extender) :
    r.kinds.length ≤ (r.insertAll entries).value.kinds.length := by
  have hsub : r.kinds ⊆ (r.insertAll entries).value.kinds := by
    intro k hk
    rw [mem_kinds_iff, contains] at hk ⊢
    rw [get?_insertAll, Option.isSome_or, hk, Bool.or_true]
  exact (List.Nodup.subperm r.nodup_kinds hsub).length_le

/-! ## Runs of calls -/

/-- A call on a register: an extender is inserted, or another register is merged in. -/
inductive Call where
  | insert (kind : String) (f : Extender)
  | merge (other : Register)

/-- The kinds that a call inserts: a merge inserts each kind of the other register once. -/
def Call.kinds : Call → List String
  | insert kind _ => [kind]
  | merge other => other.entries.names

/-- The kinds that a sequence of calls inserts, as often as it does. -/
def inserted (calls : List Call) : List String := calls.flatMap Call.kinds

/-- The calls, one after the other, can turn one register into another and log the lines, whatever
the order in which merged registers go through their entries. -/
inductive Runs : Register → List Call → Register → List LogLine → Prop
  | nil (r : Register) : Runs r [] r []
  | insert {r s : Register} {calls : List Call} {log : List LogLine} (kind : String) (f : Extender)
      (h : Runs (r.insert kind f).value calls s log) :
      Runs r (.insert kind f :: calls) s ((r.insert kind f).log ++ log)
  | merge {r other t s : Register} {calls : List Call} {log : List LogLine}
      (ht : other.Rearranges t) (h : Runs (r.merge t).value calls s log) :
      Runs r (.merge other :: calls) s ((r.merge t).log ++ log)

/-- Every sequence of calls can be run. -/
theorem exists_runs (r : Register) (calls : List Call) : ∃ s log, r.Runs calls s log := by
  induction calls generalizing r with
  | nil => exact ⟨r, [], .nil r⟩
  | cons call calls ih =>
    cases call with
    | insert kind f =>
      obtain ⟨s, log, h⟩ := ih (r.insert kind f).value
      exact ⟨s, _, .insert kind f h⟩
    | merge other =>
      obtain ⟨s, log, h⟩ := ih (r.merge other).value
      exact ⟨s, _, .merge (List.Perm.refl _) h⟩

/-- **A run of calls is one sequence of insertions**, of the kinds that the calls insert. -/
theorem Runs.exists_insertAll {r s : Register} {calls : List Call} {log : List LogLine}
    (h : r.Runs calls s log) :
    ∃ entries : Keyed Extender, entries.names.Perm (inserted calls) ∧
      r.insertAll entries = ⟨s, log⟩ := by
  induction h with
  | nil r => exact ⟨[], List.Perm.refl _, rfl⟩
  | @insert r s calls log kind f h ih =>
    obtain ⟨entries, hperm, heq⟩ := ih
    refine ⟨(kind, f) :: entries, hperm.cons kind, ?_⟩
    rw [insertAll, Logged.andThen, heq]
  | @merge r other t s calls log ht h ih =>
    obtain ⟨entries, hperm, heq⟩ := ih
    refine ⟨t.entries ++ entries, ?_, ?_⟩
    · have hnames : t.entries.names.Perm other.entries.names := (ht.map Prod.fst).symm
      have happ : Keyed.names (t.entries ++ entries) = t.entries.names ++ entries.names :=
        List.map_append
      rw [happ]
      exact hnames.append hperm
    · have hmerge : (r.insertAll t.entries).value.insertAll entries = ⟨s, log⟩ := heq
      rw [insertAll_append, Logged.andThen, hmerge]
      rfl

/-- **Overrides are logged, and nothing else.** Every sequence of insertions and merges can be run
on every register. However the merged registers are gone through, the lines are those about
overridden extenders. For each kind there are as many as the run inserts it, less one if the
register did not have the kind before and the run inserts it. So lines and added kinds together are
as many as the insertions. -/
theorem overrides_are_logged (r : Register) (calls : List Call) :
    (∃ s log, r.Runs calls s log) ∧
      ∀ s log, r.Runs calls s log →
        (∀ line ∈ log, ∃ kind, line = ⟨.debug, "Overriding extender for " ++ kind⟩) ∧
        (∀ kind, log.count ⟨.debug, "Overriding extender for " ++ kind⟩ =
          (inserted calls).count kind -
            if r.contains kind = false ∧ kind ∈ inserted calls then 1 else 0) ∧
        r.kinds.length ≤ s.kinds.length ∧
        log.length + (s.kinds.length - r.kinds.length) = (inserted calls).length := by
  refine ⟨exists_runs r calls, ?_⟩
  intro s log h
  obtain ⟨entries, hperm, heq⟩ := h.exists_insertAll
  have hlog : (r.insertAll entries).log = log := congrArg Logged.log heq
  have hvalue : (r.insertAll entries).value = s := congrArg Logged.value heq
  have hle : r.kinds.length ≤ s.kinds.length := hvalue ▸ length_kinds_le_insertAll r entries
  refine ⟨?_, ?_, hle, ?_⟩
  · intro line hline
    exact mem_log_insertAll (hlog ▸ hline)
  · intro kind
    have hcount := count_log_insertAll r entries kind
    simp only [hlog, hperm.mem_iff, hperm.count_eq] at hcount
    exact Nat.eq_sub_of_add_eq hcount
  · have hlength := length_log_insertAll r entries
    have hentries : entries.length = (inserted calls).length := by
      rw [← hperm.length_eq]
      exact (List.length_map _).symm
    rw [hlog, hvalue] at hlength
    omega

end OperatorIR.Register
