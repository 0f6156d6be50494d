import OperatorIR.Proofs.RegisterHistory
import OperatorIR.Reader

/-!
# The extender that a reader runs

A reader is set up from the standard one by supplying extenders, one by one or all that a register
holds. For a node it runs the extender that was supplied last for the operator of the node, or else
the standard one, and nothing else.

## Main definitions

* `OperatorIR.Reader.Supply` — one step in setting up a reader.
* `OperatorIR.Reader.Builds` — a reader that can come out of such steps.
* `OperatorIR.Reader.chosen` — the extender that is to run for an operator.

## Main results

* `OperatorIR.Reader.extenderFor_standard` — what the standard reader runs.
* `OperatorIR.Reader.Builds.extenderFor_eq` — a reader runs what is chosen.
* `OperatorIR.Reader.extends_with_last_supplied` — the outcome for every node.
-/

set_option autoImplicit false

namespace OperatorIR

namespace Reader

/-! ## What the standard reader runs -/

/-- The standard reader has one extender, for one operator. -/
theorem extenderFor_standard (op : String) :
    standard.extenderFor op =
      if op = "Bucketize" then some Extender.resolveOutputType else none := by
  rw [extenderFor, standard, Register.addStandard, Register.get?_insert, Register.get?_empty]
  rfl

/-- The node after the standard reader: worked on if it has that operator. -/
theorem node_extend_standard (n : Node) :
    (standard.extend n).node =
      if n.op = "Bucketize" then (Extender.resolveOutputType n).node else n := by
  have h := extenderFor_standard n.op
  split
  next hop =>
    rw [if_pos hop] at h
    rw [extend_of_some h, Outcome.node_after, Outcome.node_within]
  next hop =>
    rw [if_neg hop] at h
    rw [extend_of_none h]

/-- The standard reader fails only where it has a node of that operator worked on, in vain. -/
theorem result_extend_standard_iff (n : Node) :
    (standard.extend n).result = .ok () ↔
      (n.op = "Bucketize" → (Extender.resolveOutputType n).result = .ok ()) := by
  have h := extenderFor_standard n.op
  by_cases hop : n.op = "Bucketize"
  · rw [if_pos hop] at h
    rw [extend_of_some h, Outcome.result_after, Outcome.result_within_iff]
    exact (imp_iff_right hop).symm
  · rw [if_neg hop] at h
    rw [extend_of_none h]
    exact iff_of_true rfl fun hop' => absurd hop' hop

/-! ## Setting up a reader -/

/-- One step in setting up a reader: an extender for one kind is supplied, or all that a register
with the given history holds. -/
inductive Supply where
  | extender (kind : String) (f : Extender)
  | register (history : Register.History)

/-- The entries that a step supplies. -/
def Supply.entries : Supply → Keyed Extender
  | extender kind f => [(kind, f)]
  | register history => history.insertions.lasting

/-- All that the steps supply, in order. -/
def supplied (past : List Supply) : Keyed Extender := past.flatMap Supply.entries

/-- The reader can come out of the steps, taken one after the other from the standard reader,
whatever the order in which registers go through their entries. -/
inductive Builds : List Supply → Reader → Prop
  | standard : Builds [] standard
  | extender {past : List Supply} {r : Reader} (kind : String) (f : Extender)
      (hr : Builds past r) : Builds (past ++ [.extender kind f]) (r.withExtender kind f).value
  | register {past : List Supply} {r : Reader} {history : Register.History} {s t : Register}
      (hr : Builds past r) (hs : history.Builds s) (h : s.Rearranges t) :
      Builds (past ++ [.register history]) (r.withRegister t).value

/-- The extender that is to run for an operator: the one supplied last, and the one for output
types if none was supplied and the operator is the one that has them. -/
def chosen (past : List Supply) (op : String) : Option Extender :=
  match (supplied past).last? op with
  | some f => some f
  | none => if op = "Bucketize" then some Extender.resolveOutputType else none

/-- What is chosen after one more step: an extender of that step goes first. -/
theorem chosen_concat (past : List Supply) (step : Supply) (op : String) :
    chosen (past ++ [step]) op = (step.entries.last? op).or (chosen past op) := by
  rw [chosen, supplied, List.flatMap_append, List.flatMap_singleton, Keyed.last?_append]
  cases step.entries.last? op <;> rfl

/-- **A reader runs what is chosen.**

**Proof sketch.** Induction on the steps. An extender that is supplied takes the place of an
earlier one; the entries of a register are looked up by its history. -/
theorem Builds.extenderFor_eq {past : List Supply} {r : Reader} (hr : Builds past r)
    (op : String) : r.extenderFor op = chosen past op := by
  induction hr with
  | standard => exact extenderFor_standard op
  | @extender past r kind f hr ih =>
    rw [chosen_concat, ← ih, Supply.entries, Keyed.last?_singleton]
    calc (r.withExtender kind f).value.extenderFor op
      _ = if op = kind then some f else r.extenderFor op := r.register.get?_insert kind f op
      _ = (if op = kind then some f else none).or (r.extenderFor op) := by split <;> rfl
  | @register past r history s t hr hs h ih =>
    rw [chosen_concat, ← ih, Supply.entries, Keyed.last?_lasting]
    calc (r.withRegister t).value.extenderFor op
      _ = (t.get? op).or (r.extenderFor op) := r.register.get?_merge t op
      _ = (history.insertions.last? op).or (r.extenderFor op) := by rw [← h.get?_eq, hs.get?_eq]

/-! ## What a reader does to a node -/

/-- **A reader extends with what was supplied last.** The choice depends on the operator of the
node as it comes in, and on nothing else. Without an extender the node is left alone and one line
says so. With one the node afterwards is the one that it returns, and its lines follow the line
that names the node as it came in; it succeeds or fails as the extender does, and a failure gets
the node as it is then in front of its chain. -/
theorem extends_with_last_supplied {past : List Supply} {r : Reader} (hr : Builds past r)
    (n : Node) :
    (chosen past n.op = none →
      r.extend n = ⟨n, [⟨.trace, "No extender for " ++ n.text⟩], .ok ()⟩) ∧
    ∀ f, chosen past n.op = some f →
      (r.extend n).node = (f n).node ∧
      (r.extend n).log = ⟨.debug, "Extending " ++ n.text⟩ :: (f n).log ∧
      ((r.extend n).result = .ok () ↔ (f n).result = .ok ()) ∧
      ∀ e, (f n).result = .error e → ∃ e', (r.extend n).result = .error e' ∧
        e'.messages = ("Extending " ++ (f n).node.text) :: e.messages := by
  have hop : r.extenderFor n.op = chosen past n.op := hr.extenderFor_eq n.op
  constructor
  · intro hc
    exact extend_of_none (hop.trans hc)
  · intro f hc
    rw [extend_of_some (hop.trans hc)]
    refine ⟨rfl, rfl, Outcome.result_within_iff _ _, ?_⟩
    intro e he
    -- the context is the node that the extender returns, not the one that came in
    have hw := Outcome.result_within_of_error (.extending (f n).node.toLabel) he
    exact ⟨e.within (.extending (f n).node.toLabel), hw, rfl⟩

/-- Renames a node, gives it another operator, and fails. -/
private def renameAndFail : Extender := fun n =>
  .fail { n with name := "b", op := "Bucketize" } (.worded "half way")

/-- An extender for `Relu` is supplied, and replaced through a register that is gone through from
its last entry on. The node that was renamed before the failure is named in the failure, and its
new operator is not looked up. -/
theorem extends_with_replaced_extender :
    ∃ r, Builds [.extender "Relu" .done,
        .register ((Register.History.empty.insert "Relu" renameAndFail).insert "Pad" .done)] r ∧
      (r.extend (.ofName "a" "Relu")).node = .ofName "b" "Bucketize" ∧
      (r.extend (.ofName "a" "Relu")).log = [⟨.debug, "Extending Node \"a\" (Relu)"⟩] ∧
      ∃ e, (r.extend (.ofName "a" "Relu")).result = .error e ∧
        e.messages = ["Extending Node \"b\" (Bucketize)", "half way"] := by
  have hs := (Register.History.Builds.empty.insert "Relu" renameAndFail).insert "Pad" .done
  let t : Register := ⟨[("Pad", .done), ("Relu", renameAndFail)], by decide⟩
  have hr := (Builds.standard.extender "Relu" .done).register hs (t := t) (List.Perm.swap _ _ _)
  obtain ⟨hn, hl, -, he⟩ :=
    (extends_with_last_supplied hr (.ofName "a" "Relu")).2 renameAndFail rfl
  obtain ⟨e, hres, hm⟩ := he _ rfl
  exact ⟨_, hr, hn, hl, e, hres, hm⟩

end Reader

end OperatorIR
