import OperatorIR.Register
import OperatorIR.Text.Outline

/-!
# Readers

A reader finishes the nodes that have been read from a file. It holds a register and runs, on each
node, the extender for the operator of the node; a node without one is left alone.

## Main definitions

* `OperatorIR.Reader` — a reader with its register.
* `OperatorIR.Reader.standard` — the reader that every other begins as.
* `OperatorIR.Reader.withExtender`, `withRegister` — the reader with more extenders.
* `OperatorIR.Reader.extend` — runs the extender for a node.

## Main results

* `OperatorIR.Reader.extend_of_none`, `OperatorIR.Reader.extend_of_some` — the outcome, case by
  case.
-/

set_option autoImplicit false

namespace OperatorIR

/-- Finishes nodes by the extenders of its register. -/
structure Reader where
  /-- The extenders that the reader runs. -/
  register : Register

namespace Reader

/-- The reader with the extenders that every reader begins with. -/
def standard : Reader := ⟨Register.empty.addStandard.value⟩

/-- The reader with one more extender, in the place of an earlier one for its kind. -/
def withExtender (r : Reader) (kind : String) (f : Extender) : Logged Reader :=
  (r.register.insert kind f).andThen fun register => .quiet ⟨register⟩

/-- The reader with all extenders of a register, in the place of earlier ones. -/
def withRegister (r : Reader) (register : Register) : Logged Reader :=
  (r.register.merge register).andThen fun merged => .quiet ⟨merged⟩

/-- The extender for a kind. -/
def extenderFor (r : Reader) (kind : String) : Option Extender := r.register.get? kind

/-- Runs the extender for the operator of the node, if there is one. A failure gets the extended
node, as it is then, for its context. -/
def extend (r : Reader) : Extender := fun n =>
  match r.extenderFor n.op with
  | none => (Outcome.done n).after [⟨.trace, "No extender for " ++ n.text⟩]
  | some f =>
    let outcome := f n
    (outcome.within (.extending outcome.node.toLabel)).after
      [⟨.debug, "Extending " ++ n.text⟩]

/-! ## Text -/

/-- The outline of a reader. -/
def outline (r : Reader) : Text.Outline :=
  .group "IrReader" .record [.labelled "extenders" (.leaf r.register.text)]

/-- The outline of a reader on one line. -/
def compactText (r : Reader) : String := r.outline.compact

/-- The outline of a reader with one part to a line. -/
def spreadText (r : Reader) : String := r.outline.spread 0

/-! ## Outcomes -/

/-- Without an extender for its operator a node is left alone. -/
theorem extend_of_none {r : Reader} {n : Node} (h : r.extenderFor n.op = none) :
    r.extend n = ⟨n, [⟨.trace, "No extender for " ++ n.text⟩], .ok ()⟩ := by
  simp [extend, h, Outcome.done, Outcome.after]

/-- With one, the node and the result are those of the extender, up to the context. -/
theorem extend_of_some {r : Reader} {n : Node} {f : Extender}
    (h : r.extenderFor n.op = some f) :
    r.extend n = ((f n).within (.extending (f n).node.toLabel)).after
      [⟨.debug, "Extending " ++ n.text⟩] := by
  simp [extend, h]

end Reader

end OperatorIR
