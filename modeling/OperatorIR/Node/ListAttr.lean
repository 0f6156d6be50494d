import OperatorIR.Log
import OperatorIR.Node.Basic

/-!
# Attributes as lists

Some operators take a list where a file may give a single value. An attribute is turned into a
list in place; if the node does not have it, a warning is logged and the node stays as it is.

## Main definitions

* `OperatorIR.Node.listAttr` — turns one attribute into a list.

## Main results

* `OperatorIR.Node.attr?_listAttr` — what an attribute is afterwards.
-/

set_option autoImplicit false

namespace OperatorIR

namespace Node

/-- The node with an attribute turned into a list, if the node has it. -/
def listAttr (n : Node) (key : String) : Logged Node :=
  match n.attr? key with
  | none => ⟨n, [⟨.warn, n.text ++ " has no attribute " ++ key ++ ", leaving it as is"⟩]⟩
  | some value => .quiet (n.withAttr key value.listed)

/-- The label stays. -/
@[simp] theorem toLabel_listAttr (n : Node) (key : String) :
    (n.listAttr key).value.toLabel = n.toLabel := by
  unfold listAttr
  split <;> rfl

/-- An attribute afterwards: listed under the given name, untouched under all others. -/
theorem attr?_listAttr (n : Node) (key k : String) :
    (n.listAttr key).value.attr? k =
      if k = key then (n.attr? k).map AttrValue.listed else n.attr? k := by
  unfold listAttr
  split
  next h =>
    by_cases hk : k = key
    · simp [hk, h]
    · simp [hk]
  next value h =>
    by_cases hk : k = key
    · simp [Logged.quiet, attr?_withAttr, hk, h]
    · simp [Logged.quiet, attr?_withAttr, hk]

end Node

end OperatorIR
