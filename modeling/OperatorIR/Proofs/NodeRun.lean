import OperatorIR.Proofs.Dispatch
import OperatorIR.Proofs.Resolution

/-!
# Runs of operations on a node

A node is worked on by a run of operations: its output type is resolved, directly or by the
standard reader, and in between its other attributes and its label are written. The output type is
settled once. It stays what it was until the first operation that resolves it, and from then on it
is the type that its token named.

## Main definitions

* `OperatorIR.Node.Operation` — the operations, none of which writes an output type of its own.
* `OperatorIR.Node.after` — the node after a run.
* `OperatorIR.Node.Operation.Resolves` — an operation resolves the output type of a node.
* `OperatorIR.Node.ResolvesAt`, `OperatorIR.Node.ResolvedBy` — a step of a run does, or has.

## Main results

* `OperatorIR.Node.Operation.attr?_apply_of_resolves`, `attr?_apply_of_not_resolves` — the output
  type after one operation.
* `OperatorIR.Node.outputTypeAt_eq` — the output type after every step of a run.
* `OperatorIR.Node.outputType_settles_once` — at most one change in a run, and when it happens.
-/

set_option autoImplicit false

namespace OperatorIR.Node

/-! ## Operations -/

/-- Something done to a node. The output type is resolved by its extender, whatever the operator,
or the standard reader extends the node; another attribute than the output type is written, or
turned into a list; name, operator or version is written. -/
inductive Operation where
  | resolve
  | extend
  | setAttr (key : String) (value : AttrValue) (other : key ≠ "output_type")
  | listAttr (key : String) (other : key ≠ "output_type")
  | setName (name : String)
  | setOp (op : String)
  | setVersion (version : Option String)

namespace Operation

/-- The node after the operation, whether or not it failed. -/
def apply : Operation → Node → Node
  | resolve, n => (Extender.resolveOutputType n).node
  | extend, n => (Reader.standard.extend n).node
  | setAttr key value _, n => (n.setAttr key value).1
  | listAttr key _, n => (n.listAttr key).value
  | setName name, n => { n with name := name }
  | setOp op, n => { n with op := op }
  | setVersion version, n => { n with version := version }

/-- The operation is one that resolves output types, and the node one whose output type it
resolves. -/
def Resolves : Operation → Node → Prop
  | resolve, n => n.version ≠ some "extension"
  | extend, n => n.version ≠ some "extension" ∧ n.op = "Bucketize"
  | _, _ => False

/-- An operation that resolves replaces the output type. -/
theorem attr?_apply_of_resolves {a : Operation} {n : Node} (h : a.Resolves n) :
    (a.apply n).attr? outputType = (n.attr? outputType).map AttrValue.resolved := by
  cases a with
  | resolve => exact Extender.attr?_resolveOutputType h
  | extend =>
    rw [apply, Reader.node_extend_standard, if_pos h.2]
    exact Extender.attr?_resolveOutputType h.1
  | _ => exact h.elim

/-- Any other operation keeps the output type. -/
theorem attr?_apply_of_not_resolves {a : Operation} {n : Node} (h : ¬ a.Resolves n) :
    (a.apply n).attr? outputType = n.attr? outputType := by
  cases a with
  | resolve =>
    rw [apply, Extender.node_resolveOutputType, if_pos (Decidable.not_not.1 h)]
  | extend =>
    rw [apply, Reader.node_extend_standard]
    split
    next hop =>
      have hx : n.version = some "extension" := Decidable.byContradiction fun hx => h ⟨hx, hop⟩
      rw [Extender.node_resolveOutputType, if_pos hx]
    next => rfl
  | setAttr key value other =>
    rw [apply, Node.setAttr, attr?_withAttr]
    exact if_neg other.symm
  | listAttr key other =>
    rw [apply, attr?_listAttr]
    exact if_neg other.symm
  | setName name => rfl
  | setOp op => rfl
  | setVersion version => rfl

end Operation

/-! ## Runs -/

/-- The node after a run of operations. -/
def after (n : Node) (run : List Operation) : Node := run.foldl (fun m a => a.apply m) n

/-- The output type after the first `i` steps of a run. -/
def outputTypeAt (n : Node) (run : List Operation) (i : Nat) : Option AttrValue :=
  (n.after (run.take i)).attr? "output_type"

/-- The step `i` of a run resolves the output type of the node, as it is then. -/
def ResolvesAt (n : Node) (run : List Operation) (i : Nat) : Prop :=
  ∃ a, run[i]? = some a ∧ a.Resolves (n.after (run.take i))

/-- One of the first `i` steps of a run resolves the output type of the node. -/
def ResolvedBy (n : Node) (run : List Operation) (i : Nat) : Prop := ∃ j < i, n.ResolvesAt run j

/-- What was resolved stays resolved. -/
theorem ResolvedBy.mono {n : Node} {run : List Operation} {i j : Nat} (h : n.ResolvedBy run i)
    (hij : i ≤ j) : n.ResolvedBy run j := by
  obtain ⟨k, hk, hres⟩ := h
  exact ⟨k, Nat.lt_of_lt_of_le hk hij, hres⟩

/-- The output type is resolved within `i + 1` steps if it is within `i`, or at the step `i`. -/
theorem resolvedBy_succ_iff (n : Node) (run : List Operation) (i : Nat) :
    n.ResolvedBy run (i + 1) ↔ n.ResolvedBy run i ∨ n.ResolvesAt run i := by
  constructor
  · rintro ⟨j, hj, hres⟩
    rcases Nat.lt_succ_iff_lt_or_eq.1 hj with h | rfl
    · exact Or.inl ⟨j, h, hres⟩
    · exact Or.inr hres
  · rintro (h | hres)
    · exact h.mono (Nat.le_succ i)
    · exact ⟨i, Nat.lt_succ_self i, hres⟩

/-- One more step of a run. -/
theorem after_take_succ (n : Node) {run : List Operation} {i : Nat} {a : Operation}
    (h : run[i]? = some a) : n.after (run.take (i + 1)) = a.apply (n.after (run.take i)) := by
  rw [after, List.take_add_one, h, List.foldl_append]
  rfl

/-- A step that resolves replaces the output type. -/
theorem outputTypeAt_succ_of_resolvesAt {n : Node} {run : List Operation} {i : Nat}
    (h : n.ResolvesAt run i) :
    n.outputTypeAt run (i + 1) = (n.outputTypeAt run i).map AttrValue.resolved := by
  obtain ⟨a, ha, hres⟩ := h
  rw [outputTypeAt, after_take_succ n ha]
  exact Operation.attr?_apply_of_resolves hres

/-- Any other step keeps it. -/
theorem outputTypeAt_succ_of_not_resolvesAt {n : Node} {run : List Operation} {i : Nat}
    (h : ¬ n.ResolvesAt run i) : n.outputTypeAt run (i + 1) = n.outputTypeAt run i := by
  cases ha : run[i]? with
  | none =>
    -- the run has ended
    rw [outputTypeAt, outputTypeAt, List.take_add_one, ha, Option.toList_none, List.append_nil]
  | some a =>
    rw [outputTypeAt, after_take_succ n ha]
    exact Operation.attr?_apply_of_not_resolves fun hres => h ⟨a, ha, hres⟩

/-- **The output type along a run**: as at the beginning until a step resolves it, and from then
on what it is resolved to.

**Proof sketch.** Induction on the number of steps. A step that resolves replaces the output type,
and when one did so before, replacing it again changes nothing. Any other step keeps it. -/
theorem outputTypeAt_eq (n : Node) (run : List Operation) (i : Nat) :
    (n.ResolvedBy run i →
      n.outputTypeAt run i = (n.attr? outputType).map AttrValue.resolved) ∧
    (¬ n.ResolvedBy run i → n.outputTypeAt run i = n.attr? outputType) := by
  induction i with
  | zero =>
    refine ⟨?_, fun _ => rfl⟩
    rintro ⟨j, hj, -⟩
    exact absurd hj (Nat.not_lt_zero j)
  | succ i ih =>
    obtain ⟨ihr, ihn⟩ := ih
    by_cases hi : n.ResolvesAt run i
    · have hb : n.ResolvedBy run (i + 1) := (n.resolvedBy_succ_iff run i).2 (Or.inr hi)
      refine ⟨fun _ => ?_, fun h => absurd hb h⟩
      rw [outputTypeAt_succ_of_resolvesAt hi]
      by_cases hr : n.ResolvedBy run i
      · rw [ihr hr, Option.map_map]
        exact congrArg (fun f => (n.attr? outputType).map f) (funext AttrValue.resolved_resolved)
      · rw [ihn hr]
    · rw [outputTypeAt_succ_of_not_resolvesAt hi, resolvedBy_succ_iff, or_iff_left hi]
      exact ⟨ihr, ihn⟩

/-- Once a step has resolved it, the output type is what it is resolved to. -/
theorem ResolvedBy.outputTypeAt_eq {n : Node} {run : List Operation} {i : Nat}
    (h : n.ResolvedBy run i) :
    n.outputTypeAt run i = (n.attr? outputType).map AttrValue.resolved :=
  (n.outputTypeAt_eq run i).1 h

/-- An output type that is not as at the beginning was resolved. -/
theorem resolvedBy_of_ne {n : Node} {run : List Operation} {i : Nat}
    (h : n.outputTypeAt run i ≠ n.attr? outputType) : n.ResolvedBy run i := by
  by_cases hr : n.ResolvedBy run i
  · exact hr
  · exact absurd ((n.outputTypeAt_eq run i).2 hr) h

/-- A step that changes the output type is the first to resolve it. -/
theorem resolvedBy_of_change {n : Node} {run : List Operation} {i : Nat}
    (h : n.outputTypeAt run (i + 1) ≠ n.outputTypeAt run i) :
    ¬ n.ResolvedBy run i ∧ n.ResolvedBy run (i + 1) := by
  have hn : ¬ n.ResolvedBy run i := by
    intro hr
    exact h ((hr.mono (Nat.le_succ i)).outputTypeAt_eq.trans hr.outputTypeAt_eq.symm)
  refine ⟨hn, resolvedBy_of_ne ?_⟩
  rw [← (n.outputTypeAt_eq run i).2 hn]
  exact h

/-- What an output type is resolved to, if it is not itself: the type of its token. -/
theorem map_resolved_cases (v : Option AttrValue) :
    v.map AttrValue.resolved = v ∨ ∃ t : ElementType, v = some (.string t.token) ∧
      v.map AttrValue.resolved = some (.elementType t) := by
  cases v with
  | none => exact Or.inl rfl
  | some v =>
    by_cases h : v.resolved = v
    · exact Or.inl (congrArg some h)
    · obtain ⟨t, rfl⟩ := v.resolved_ne_self_iff.1 h
      exact Or.inr ⟨t, rfl, congrArg some (AttrValue.resolved_token t)⟩

/-- **The output type settles once.** After every step of a run it is what it was at the beginning,
or the type whose token it was. At most one step changes it, and it never changes back. If it was
the token of a type, it has changed exactly when a step has resolved it: one that runs the extender
for output types outside the extension operator set, or one that has the standard reader extend the
node then and with the operator that has output types. -/
theorem outputType_settles_once (n : Node) (run : List Operation) :
    (∀ i, n.outputTypeAt run i = n.attr? "output_type" ∨
      ∃ t : ElementType, n.attr? "output_type" = some (.string t.token) ∧
        n.outputTypeAt run i = some (.elementType t)) ∧
    (∀ i j, n.outputTypeAt run (i + 1) ≠ n.outputTypeAt run i →
      n.outputTypeAt run (j + 1) ≠ n.outputTypeAt run j → i = j) ∧
    (∀ i j, i ≤ j → n.outputTypeAt run i ≠ n.attr? "output_type" →
      n.outputTypeAt run j = n.outputTypeAt run i) ∧
    ∀ t : ElementType, n.attr? "output_type" = some (.string t.token) →
      ∀ i, n.outputTypeAt run i ≠ n.attr? "output_type" ↔ n.ResolvedBy run i := by
  refine ⟨?_, ?_, ?_, ?_⟩
  · intro i
    by_cases hr : n.ResolvedBy run i
    · rw [hr.outputTypeAt_eq]
      exact map_resolved_cases _
    · exact Or.inl ((n.outputTypeAt_eq run i).2 hr)
  · intro i j hi hj
    obtain ⟨hi, hi'⟩ := resolvedBy_of_change hi
    obtain ⟨hj, hj'⟩ := resolvedBy_of_change hj
    -- whichever step comes second finds the output type resolved
    rcases Nat.lt_trichotomy i j with h | h | h
    · exact absurd (hi'.mono h) hj
    · exact h
    · exact absurd (hj'.mono h) hi
  · intro i j hij hi
    have hr : n.ResolvedBy run i := resolvedBy_of_ne hi
    rw [hr.outputTypeAt_eq, (hr.mono hij).outputTypeAt_eq]
  · intro t ht i
    refine ⟨resolvedBy_of_ne, ?_⟩
    intro hr heq
    rw [hr.outputTypeAt_eq, outputType, ht, Option.map_some, AttrValue.resolved_token] at heq
    simp at heq

end OperatorIR.Node
