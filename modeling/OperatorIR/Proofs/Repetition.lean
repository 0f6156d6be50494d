import OperatorIR.Proofs.Dispatch
import OperatorIR.Proofs.Resolution

/-!
# Extending a node again

An extender may run on a node more than once, each time on the node that it left the time before. If
it comes to the same when it runs once more, it comes to the same every time. The extender for
output types is of this kind, though it takes another path the second time, when the token has
become a type; and a reader is if all of its extenders are and none of them writes the label of a
node, on which the choice of the extender and the words about the node depend.

## Main definitions

* `OperatorIR.Extender.inARow` — what comes out of each of several runs.
* `OperatorIR.Extender.nodeAfter` — the node in the end.
* `OperatorIR.Extender.Settles` — another run comes to the same.

## Main results

* `OperatorIR.Extender.Settles.inARow_eq` — every run comes to what the first one did.
* `OperatorIR.Extender.settles_resolveOutputType` — the extender for output types.
* `OperatorIR.Reader.settles_extend` — readers, from what holds of their extenders.
* `OperatorIR.Reader.extending_again_is_unobservable` — the standard reader, and its extender.
-/

set_option autoImplicit false

namespace OperatorIR

namespace Extender

variable {f : Extender}

/-! ## Runs in a row -/

/-- The outcomes of so many runs of an extender, each on the node that the one before it left. -/
def inARow (f : Extender) (n : Node) : Nat → List Outcome
  | 0 => []
  | times + 1 => f n :: inARow f (f n).node times

/-- The node after so many runs of an extender. -/
def nodeAfter (f : Extender) (n : Node) : Nat → Node
  | 0 => n
  | times + 1 => nodeAfter f (f n).node times

/-- Another run on the node that the extender left comes to the same: the node, what is logged, and
the success or failure with all its causes. -/
def Settles (f : Extender) : Prop := ∀ n, f (f n).node = f n

/-- **Every run comes to the same** if the second one does.

**Proof sketch.** Induction on the number of runs. The later ones begin with the node that the first
one left, on which the extender comes to what it came to on the node before. -/
theorem Settles.inARow_eq (hf : Settles f) (n : Node) (times : Nat) :
    inARow f n times = List.replicate times (f n) := by
  induction times generalizing n with
  | zero => rfl
  | succ times ih => rw [inARow, ih, hf, List.replicate_succ]

/-- The node after any number of runs is the one after the first run. -/
theorem Settles.nodeAfter_succ (hf : Settles f) (n : Node) (times : Nat) :
    nodeAfter f n (times + 1) = (f n).node := by
  induction times generalizing n with
  | zero => rfl
  | succ times ih => rw [nodeAfter, ih, hf]

/-- **The extender for output types settles.** Where it changes nothing, another run does again what
the first one did. Where it has replaced a token, it finds the type of the token and leaves it. -/
theorem settles_resolveOutputType : Settles resolveOutputType := by
  intro n
  by_cases hnode : (resolveOutputType n).node = n
  · rw [hnode]
  · obtain ⟨hversion, t, htoken⟩ := (node_resolveOutputType_ne_iff n).1 hnode
    have hx : n.isExtension = false := n.isExtension_eq_false_iff.2 hversion
    have hv : (AttrValue.string t.token).asOutputType = .ok t :=
      (AttrValue.asOutputType_eq_ok_iff _ t).2 (Or.inr rfl)
    have htype : (n.withAttr outputType (.elementType t)).attr? outputType =
        some (.elementType t) := by
      rw [Node.attr?_withAttr, if_pos rfl]
    -- the type that stands there now stands for itself
    have hagain : resolveOutputType (n.withAttr outputType (.elementType t)) =
        .done (n.withAttr outputType (.elementType t)) := by
      have hx' : (n.withAttr outputType (.elementType t)).isExtension = false := hx
      rw [resolveOutputType_ok hx' htype rfl, Node.withAttr_of_attr? htype]
    rw [resolveOutputType_ok hx htoken hv]
    exact hagain

end Extender

namespace Reader

open Extender (Settles inARow nodeAfter resolveOutputType)

/-! ## Readers -/

/-- **A reader settles** if its extenders do and keep the labels of nodes: the same extender runs
again, and the node has the same name in what is logged and in the context of a failure. -/
theorem settles_extend {r : Reader} (hf : ∀ op f, r.extenderFor op = some f → Settles f)
    (hl : ∀ op f, r.extenderFor op = some f → ∀ n, (f n).node.toLabel = n.toLabel) :
    Settles r.extend := by
  intro n
  cases h : r.extenderFor n.op with
  | none => rw [extend_of_none h, extend_of_none h]
  | some f =>
    have hlabel : (f n).node.toLabel = n.toLabel := hl n.op f h n
    have hop : r.extenderFor (f n).node.op = some f := by
      rw [← h]
      exact congrArg (fun label => r.extenderFor label.op) hlabel
    have hnode : (r.extend n).node = (f n).node := by
      rw [extend_of_some h]
      rfl
    rw [hnode, extend_of_some hop, extend_of_some h, hf n.op f h, hlabel]

/-- The standard reader settles. -/
theorem settles_extend_standard : Settles standard.extend := by
  have hstandard : ∀ op f, standard.extenderFor op = some f → f = resolveOutputType := by
    intro op f hf
    rw [extenderFor_standard] at hf
    split at hf
    · exact (Option.some.inj hf).symm
    · exact absurd hf nofun
  refine settles_extend ?_ ?_
  · intro op f hf
    rw [hstandard op f hf]
    exact Extender.settles_resolveOutputType
  · intro op f hf n
    rw [hstandard op f hf]
    exact Extender.toLabel_resolveOutputType n

/-- **Extending a node again cannot be observed.** Let the standard reader extend a node any number
of times in a row, or run its extender for output types on a node with any operator. Each time the
outcome is that of the first time: the same node, the same lines, and success, or failure with the
same causes in the same words. -/
theorem extending_again_is_unobservable (n : Node) (times : Nat) :
    (inARow standard.extend n times = List.replicate times (standard.extend n) ∧
      nodeAfter standard.extend n (times + 1) = (standard.extend n).node) ∧
    inARow resolveOutputType n times = List.replicate times (resolveOutputType n) ∧
      nodeAfter resolveOutputType n (times + 1) = (resolveOutputType n).node := by
  have hreader : Settles standard.extend := settles_extend_standard
  have hextender : Settles resolveOutputType := Extender.settles_resolveOutputType
  exact ⟨⟨hreader.inARow_eq n times, hreader.nodeAfter_succ n times⟩,
    hextender.inARow_eq n times, hextender.nodeAfter_succ n times⟩

end Reader

end OperatorIR
