import OperatorIR.Extender.Basic

/-!
# The output type of a node

A file gives the output type of a node by a destination token. This extender replaces the token by
the element type that it names. Nodes of the extension operator set carry their own typing and
are left alone; a node whose output type is an element type already stays as it is; in every other
case the extender fails before it has written anything.

## Main definitions

* `OperatorIR.Node.isExtension` — is the node from the extension operator set?
* `OperatorIR.AttrValue.asOutputType` — the element type that a value stands for.
* `OperatorIR.Extender.resolveOutputType` — the extender.

## Main results

* `OperatorIR.Extender.resolveOutputType_extension`, `resolveOutputType_missing`,
  `resolveOutputType_ok`, `resolveOutputType_error` — the outcome, case by case.
-/

set_option autoImplicit false

namespace OperatorIR

/-- The operator set of operators that are defined outside the standard ones. -/
def extensionOpset : String := "extension"

/-- The operator whose nodes have an output type to resolve. -/
def bucketizeOp : String := "Bucketize"

/-- The attribute that gives the output type. -/
def outputType : String := "output_type"

/-- Is the node from the extension operator set? -/
def Node.isExtension (n : Node) : Bool := decide (n.version = some extensionOpset)

/-- The element type that a value of the attribute stands for. -/
def AttrValue.asOutputType : AttrValue → Except Fault ElementType
  | .string token => (ElementType.ofToken token).mapError Fault.unknownName
  | .elementType t => .ok t
  | value => .error (.noOutputType value)

namespace Extender

/-- Replaces the destination token of the output type by the element type that it names. -/
def resolveOutputType : Extender := fun n =>
  if n.isExtension then
    (Outcome.done n).after [⟨.trace, n.text ++ " is an extension, keeping output_type as is"⟩]
  else
    match n.attr outputType with
    | .error missing => .fail n (.missingAttr missing)
    | .ok value =>
      match value.asOutputType with
      | .error fault => .fail n fault
      | .ok t => .done (n.withAttr outputType (.elementType t))

/-- A node of the extension operator set is left alone. -/
theorem resolveOutputType_extension {n : Node} (h : n.isExtension = true) :
    resolveOutputType n =
      ⟨n, [⟨.trace, n.text ++ " is an extension, keeping output_type as is"⟩], .ok ()⟩ := by
  simp [resolveOutputType, h, Outcome.done, Outcome.after]

/-- Without the attribute the extender fails. -/
theorem resolveOutputType_missing {n : Node} (h : n.isExtension = false)
    (hn : n.attr? outputType = none) :
    resolveOutputType n = .fail n (.missingAttr ⟨n.toLabel, outputType⟩) := by
  simp [resolveOutputType, h, (n.attr_eq_error_iff outputType _).2 ⟨hn, rfl⟩]

/-- A value that stands for an element type is replaced by it. -/
theorem resolveOutputType_ok {n : Node} (h : n.isExtension = false) {value : AttrValue}
    (hn : n.attr? outputType = some value) {t : ElementType} (ht : value.asOutputType = .ok t) :
    resolveOutputType n = .done (n.withAttr outputType (.elementType t)) := by
  simp [resolveOutputType, h, (n.attr_eq_ok_iff outputType value).2 hn, ht]

/-- With any other value the extender fails. -/
theorem resolveOutputType_error {n : Node} (h : n.isExtension = false) {value : AttrValue}
    (hn : n.attr? outputType = some value) {fault : Fault}
    (hf : value.asOutputType = .error fault) :
    resolveOutputType n = .fail n fault := by
  simp [resolveOutputType, h, (n.attr_eq_ok_iff outputType value).2 hn, hf]

end Extender

end OperatorIR
