import Mathlib.Data.List.Count
import OperatorIR.Proofs.Overrides

/-!
# Merging registers

To merge one register into another is to unite them, where the one that is merged in goes first. The
order in which its entries are gone through shows neither in what is found afterwards nor in how
often a line is logged: one line for each kind that both registers have. So merging three registers
comes to the same however they are put together, and merging nothing, or merging a register with
itself, changes nothing.

## Main results

* `OperatorIR.Register.log_merge` — the lines that a merge logs, in order.
* `OperatorIR.Register.rearranges_of_get?_eq` — registers that are found alike hold the same.
* `OperatorIR.Register.Runs.get?_merge`, `OperatorIR.Register.Runs.log_perm` — a merge, whatever
  the order.
* `OperatorIR.Register.Runs.merge_assoc` — three registers, put together in two ways.
* `OperatorIR.Register.merging_unites` — what holds of every merge.
-/

set_option autoImplicit false

namespace OperatorIR.Register

/-! ## One merge in a given order -/

/-- Entries with distinct kinds log a line for each kind that is there before them.

**Proof sketch.** Induction on the entries. The first one adds no kind but its own, and none of the
others has that. -/
theorem log_insertAll_of_nodup (r : Register) {entries : Keyed Extender}
    (hd : entries.names.Nodup) :
    (r.insertAll entries).log = (entries.names.filter r.contains).map overriding := by
  induction entries generalizing r with
  | nil => rfl
  | cons entry rest ih =>
    obtain ⟨kind, f⟩ := entry
    obtain ⟨hkind, hrest⟩ : kind ∉ Keyed.names rest ∧ (Keyed.names rest).Nodup :=
      List.nodup_cons.1 hd
    have hfilter : (Keyed.names rest).filter (r.insert kind f).value.contains =
        (Keyed.names rest).filter r.contains := by
      refine List.filter_congr fun k hk => ?_
      have hne : k ≠ kind := fun h => hkind (h ▸ hk)
      rw [contains_insert, decide_eq_false hne, Bool.false_or]
    rw [insertAll, Logged.log_andThen, ih _ hrest, hfilter, log_insert, Keyed.names_cons,
      List.filter_cons]
    split <;> rfl

/-- A merge logs a line for each kind of the other register that is there before. -/
theorem log_merge (r s : Register) :
    (r.merge s).log = (s.entries.names.filter r.contains).map overriding :=
  r.log_insertAll_of_nodup s.distinct

/-! ## Registers that hold the same -/

/-- Registers that are found alike hold the same entries. -/
theorem rearranges_of_get?_eq {r s : Register} (h : ∀ k, r.get? k = s.get? k) : r.Rearranges s :=
  Keyed.perm_of_lookup_eq r.distinct s.distinct h

/-- The empty register has no kinds. -/
theorem kinds_empty : empty.kinds = [] := List.mergeSort_nil

/-- The kinds are the names of the entries, in another order. -/
theorem kinds_perm (r : Register) : r.kinds.Perm r.entries.names := List.mergeSort_perm _ _

/-- A register in another order lists the same kinds. -/
theorem Rearranges.names_perm {r s : Register} (h : r.Rearranges s) :
    s.entries.names.Perm r.kinds :=
  (h.symm.map Prod.fst).trans r.kinds_perm.symm

/-! ## One merge in any order -/

/-- A run that begins with a merge goes through the merged register in some order. -/
theorem runs_merge_cons_iff {r s t : Register} {calls : List Call} {log : List LogLine} :
    r.Runs (.merge s :: calls) t log ↔
      ∃ s' log', s.Rearranges s' ∧ (r.merge s').value.Runs calls t log' ∧
        log = (r.merge s').log ++ log' := by
  constructor
  · intro h
    cases h with
    | merge hs h => exact ⟨_, _, hs, h, rfl⟩
  · rintro ⟨s', log', hs, h, rfl⟩
    exact .merge hs h

/-- A run of no calls does nothing. -/
theorem runs_nil_iff {r t : Register} {log : List LogLine} :
    r.Runs [] t log ↔ t = r ∧ log = [] := by
  constructor
  · intro h
    cases h
    exact ⟨rfl, rfl⟩
  · rintro ⟨rfl, rfl⟩
    exact .nil _

/-- One merge goes through the other register in some order. -/
theorem runs_merge_iff {r s t : Register} {log : List LogLine} :
    r.Runs [.merge s] t log ↔
      ∃ s', s.Rearranges s' ∧ t = (r.merge s').value ∧ log = (r.merge s').log := by
  simp only [runs_merge_cons_iff, runs_nil_iff]
  constructor
  · rintro ⟨s', log', hs, ⟨ht, rfl⟩, rfl⟩
    exact ⟨s', hs, ht, List.append_nil _⟩
  · rintro ⟨s', hs, ht, rfl⟩
    exact ⟨s', [], hs, ⟨ht, rfl⟩, (List.append_nil _).symm⟩

/-- Two merges are one after the other. -/
theorem runs_merge_merge_iff {r s t u : Register} {log : List LogLine} :
    r.Runs [.merge s, .merge t] u log ↔
      ∃ v log₁ log₂, r.Runs [.merge s] v log₁ ∧ v.Runs [.merge t] u log₂ ∧ log = log₁ ++ log₂ := by
  rw [runs_merge_cons_iff]
  simp only [runs_merge_iff (s := s)]
  constructor
  · rintro ⟨s', log', hs, h, rfl⟩
    exact ⟨_, _, _, ⟨s', hs, rfl, rfl⟩, h, rfl⟩
  · rintro ⟨v, log₁, log₂, ⟨s', hs, rfl, rfl⟩, h, rfl⟩
    exact ⟨s', log₂, hs, h, rfl⟩

/-- How often a kind stands among those that two registers share. -/
theorem count_shared_kinds (r s : Register) (k : String) :
    (s.kinds.filter r.contains).count k = if s.contains k && r.contains k then 1 else 0 := by
  have hd : (s.kinds.filter r.contains).Nodup := s.nodup_kinds.filter _
  have hmem : k ∈ s.kinds.filter r.contains ↔ (s.contains k && r.contains k) = true := by
    rw [List.mem_filter, mem_kinds_iff, Bool.and_eq_true]
  rw [hd.count]
  exact if_congr hmem rfl rfl

section Merge

variable {r s t : Register} {log : List LogLine}

/-- **After a merge** the extenders of the other register come first, in whatever order it was gone
through. -/
theorem Runs.get?_merge (h : r.Runs [.merge s] t log) (k : String) :
    t.get? k = (s.get? k).or (r.get? k) := by
  obtain ⟨s', hs, rfl, -⟩ := runs_merge_iff.1 h
  rw [Register.get?_merge, hs.get?_eq]

/-- A kind is there after a merge if either register has it. -/
theorem Runs.contains_merge (h : r.Runs [.merge s] t log) (k : String) :
    t.contains k = (s.contains k || r.contains k) := by
  rw [contains, h.get?_merge, Option.isSome_or]
  rfl

/-- **The lines of a merge** are one for each kind that both registers have. -/
theorem Runs.log_perm (h : r.Runs [.merge s] t log) :
    log.Perm ((s.kinds.filter r.contains).map overriding) := by
  obtain ⟨s', hs, -, rfl⟩ := runs_merge_iff.1 h
  rw [log_merge]
  exact (hs.names_perm.filter _).map overriding

/-- A merge logs one line about a kind if both registers have it, and none otherwise. -/
theorem Runs.count_log_merge (h : r.Runs [.merge s] t log) (k : String) :
    log.count (overriding k) = if s.contains k && r.contains k then 1 else 0 := by
  have hinj : Function.Injective overriding := fun i j => overriding_inj.1
  rw [h.log_perm.count_eq, List.count_map_of_injective _ _ hinj, count_shared_kinds]

/-- All orders of one merge end in one register and log the same lines. -/
theorem Runs.merge_unique {t' : Register} {log' : List LogLine} (h : r.Runs [.merge s] t log)
    (h' : r.Runs [.merge s] t' log') : t.Rearranges t' ∧ log.Perm log' := by
  refine ⟨rearranges_of_get?_eq fun k => ?_, h.log_perm.trans h'.log_perm.symm⟩
  rw [h.get?_merge, h'.get?_merge]

/-! ## Merging nothing, or the same again -/

/-- Merged into the empty register a register stays what it is. -/
theorem Runs.empty_merge (h : empty.Runs [.merge s] t log) : t.Rearranges s ∧ log = [] := by
  refine ⟨rearranges_of_get?_eq fun k => ?_, ?_⟩
  · rw [h.get?_merge, get?_empty, Option.or_none]
  · have hshared : s.kinds.filter empty.contains = [] :=
      List.filter_eq_nil_iff.2 fun k _ => Bool.false_ne_true
    have hlog := h.log_perm
    rw [hshared] at hlog
    exact hlog.eq_nil

/-- The empty register merged in changes nothing. -/
theorem Runs.merge_empty (h : r.Runs [.merge empty] t log) : t.Rearranges r ∧ log = [] := by
  refine ⟨rearranges_of_get?_eq fun k => ?_, ?_⟩
  · rw [h.get?_merge, get?_empty, Option.none_or]
  · have hlog := h.log_perm
    rw [kinds_empty] at hlog
    exact hlog.eq_nil

/-- A register merged into itself stays what it is, and logs a line for each of its kinds. -/
theorem Runs.merge_self (h : r.Runs [.merge r] t log) :
    t.Rearranges r ∧ log.Perm (r.kinds.map overriding) := by
  refine ⟨rearranges_of_get?_eq fun k => ?_, ?_⟩
  · rw [h.get?_merge, Option.or_self]
  · have hall : r.kinds.filter r.contains = r.kinds :=
      List.filter_eq_self.2 fun k hk => (r.mem_kinds_iff k).1 hk
    have hlog := h.log_perm
    rwa [hall] at hlog

end Merge

/-! ## Three registers -/

section Three

variable {a b c ab bc s s' : Register} {log log₁ log₂ : List LogLine}

/-- Three registers override the same kinds, each as often, however they are put together: a kind
once less than there are registers that have it. -/
theorem perm_shared_kinds (hab : ∀ k, ab.contains k = (b.contains k || a.contains k))
    (hbc : ∀ k, bc.contains k = (c.contains k || b.contains k)) :
    (b.kinds.filter a.contains ++ c.kinds.filter ab.contains).Perm
      (c.kinds.filter b.contains ++ bc.kinds.filter a.contains) := by
  rw [List.perm_iff_count]
  intro k
  simp only [List.count_append, count_shared_kinds, hab, hbc]
  cases a.contains k <;> cases b.contains k <;> cases c.contains k <;> rfl

/-- **Merging is associative**: the second and the third register merged into the first, one after
the other, or the third into the second and the outcome into the first.

**Proof sketch.** In either case the third register goes first, then the second, then the first. The
lines of each merge are those of the kinds that the two registers share, so the kinds that three
registers override decide. -/
theorem Runs.merge_assoc (habc : a.Runs [.merge b, .merge c] s log)
    (hbc : b.Runs [.merge c] bc log₁) (ha : a.Runs [.merge bc] s' log₂) :
    s.Rearranges s' ∧ log.Perm (log₁ ++ log₂) := by
  obtain ⟨ab, log₃, log₄, hab, hc, rfl⟩ := runs_merge_merge_iff.1 habc
  refine ⟨rearranges_of_get?_eq fun k => ?_, ?_⟩
  · rw [hc.get?_merge, hab.get?_merge, ha.get?_merge, hbc.get?_merge, Option.or_assoc]
  · have hleft : (log₃ ++ log₄).Perm
        ((b.kinds.filter a.contains ++ c.kinds.filter ab.contains).map overriding) := by
      rw [List.map_append]
      exact hab.log_perm.append hc.log_perm
    have hright : (log₁ ++ log₂).Perm
        ((c.kinds.filter b.contains ++ bc.kinds.filter a.contains).map overriding) := by
      rw [List.map_append]
      exact hbc.log_perm.append ha.log_perm
    have hkinds := perm_shared_kinds hab.contains_merge hbc.contains_merge
    exact (hleft.trans (hkinds.map overriding)).trans hright.symm

end Three

/-! ## Merging in general -/

/-- **Merging unites registers.** Registers can be merged in any number. Whatever the order in which
a register is gone through, its extenders go first, and one line is logged for each kind that both
have; so all orders end in one register and log the same lines. Merging a second register and then a
third, or the third into the second and the outcome into the first, ends in one register and logs
the same lines in all. The empty register changes nothing on either side, silently; nor does a
register that is merged into itself, with a line for each of its kinds. -/
theorem merging_unites (a b c : Register) :
    (∀ calls, ∃ s log, a.Runs calls s log) ∧
    (∀ s log, a.Runs [.merge b] s log →
      (∀ k, s.get? k = (b.get? k).or (a.get? k)) ∧
      log.Perm ((b.kinds.filter a.contains).map fun k =>
        ⟨.debug, "Overriding extender for " ++ k⟩) ∧
      (∀ k, log.count ⟨.debug, "Overriding extender for " ++ k⟩ =
        if b.contains k && a.contains k then 1 else 0) ∧
      ∀ s' log', a.Runs [.merge b] s' log' → s.Rearranges s' ∧ log.Perm log') ∧
    (∀ s log bc log₁ s' log₂, a.Runs [.merge b, .merge c] s log →
      b.Runs [.merge c] bc log₁ → a.Runs [.merge bc] s' log₂ →
      s.Rearranges s' ∧ log.Perm (log₁ ++ log₂)) ∧
    (∀ s log, empty.Runs [.merge a] s log → s.Rearranges a ∧ log = []) ∧
    (∀ s log, a.Runs [.merge empty] s log → s.Rearranges a ∧ log = []) ∧
    ∀ s log, a.Runs [.merge a] s log → s.Rearranges a ∧
      log.Perm (a.kinds.map fun k => ⟨.debug, "Overriding extender for " ++ k⟩) := by
  refine ⟨exists_runs a, ?_, ?_, ?_, ?_, ?_⟩
  · intro s log h
    exact ⟨h.get?_merge, h.log_perm, h.count_log_merge, fun s' log' h' => h.merge_unique h'⟩
  · intro s log bc log₁ s' log₂ habc hbc ha
    exact habc.merge_assoc hbc ha
  · intro s log h
    exact h.empty_merge
  · intro s log h
    exact h.merge_empty
  · intro s log h
    exact h.merge_self

end OperatorIR.Register
