import OperatorIR.Failure
import OperatorIR.Log

/-!
# Extenders

An extender finishes a node that has just been read: it may change any part of the node, log
lines, and fail. What it wrote before it failed stays.

## Main definitions

* `OperatorIR.Outcome` — the node afterwards, the lines logged, and success or failure.
* `OperatorIR.Extender` — a function from nodes to outcomes.
* `OperatorIR.Outcome.within`, `Outcome.after` — a context around a failure, lines in front.

## Main results

* `OperatorIR.Outcome.result_within_iff`, `Outcome.result_within_of_error` — a context keeps a
  success, and a failure is put inside it.
-/

set_option autoImplicit false

namespace OperatorIR

/-- What comes out of work on a node. -/
structure Outcome where
  /-- The node afterwards, also after a failure. -/
  node : Node
  /-- The lines logged, in order. -/
  log : List LogLine
  /-- Success, or the failure in which the work ended. -/
  result : Except Failure Unit

/-- The work done on a node of a given kind after it has been read. -/
abbrev Extender := Node → Outcome

namespace Outcome

/-- Success with the given node and no lines. -/
def done (n : Node) : Outcome := ⟨n, [], .ok ()⟩

/-- Failure with the given node, one fault and no lines. -/
def fail (n : Node) (fault : Fault) : Outcome := ⟨n, [], .error (.ofFault fault)⟩

/-- The outcome with its failure, if it is one, inside a context. -/
def within (context : Fault) (o : Outcome) : Outcome :=
  { o with result := o.result.mapError (Failure.within context) }

/-- The outcome with lines in front of its own. -/
def after (lines : List LogLine) (o : Outcome) : Outcome := { o with log := lines ++ o.log }

/-- Did the work succeed? -/
def succeeds (o : Outcome) : Bool := o.result.isOk

/-- A context keeps the node. -/
@[simp] theorem node_within (context : Fault) (o : Outcome) :
    (o.within context).node = o.node := rfl

/-- A context logs nothing. -/
@[simp] theorem log_within (context : Fault) (o : Outcome) : (o.within context).log = o.log := rfl

/-- A context keeps a success. -/
theorem result_within_iff (context : Fault) (o : Outcome) :
    (o.within context).result = .ok () ↔ o.result = .ok () := by
  obtain ⟨n, log, result⟩ := o
  cases result with
  | ok u => exact iff_of_true rfl rfl
  | error e => exact iff_of_false nofun nofun

/-- A failure is put inside the context. -/
theorem result_within_of_error {o : Outcome} {e : Failure} (context : Fault)
    (h : o.result = .error e) : (o.within context).result = .error (e.within context) := by
  rw [within, h]
  rfl

/-- Lines in front keep the node. -/
@[simp] theorem node_after (lines : List LogLine) (o : Outcome) :
    (o.after lines).node = o.node := rfl

/-- Lines in front come first in the log. -/
@[simp] theorem log_after (lines : List LogLine) (o : Outcome) :
    (o.after lines).log = lines ++ o.log := rfl

/-- Lines in front keep the result. -/
@[simp] theorem result_after (lines : List LogLine) (o : Outcome) :
    (o.after lines).result = o.result := rfl

end Outcome

end OperatorIR
