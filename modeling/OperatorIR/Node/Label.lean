import OperatorIR.Text.Quoted

/-!
# Labels of nodes

A node is named in messages by its label: its name in quotes, and in parentheses its operator and,
if it has one, the version of the operator set.

## Main definitions

* `OperatorIR.Label` — name, operator and version.
* `OperatorIR.Label.text` — the label as messages write it.
-/

set_option autoImplicit false

namespace OperatorIR

/-- What identifies a node in messages. -/
structure Label where
  /-- The name of the node. -/
  name : String
  /-- The operator that the node applies. -/
  op : String
  /-- The operator set in which the operator was declared. -/
  version : Option String
  deriving DecidableEq

namespace Label

/-- What stands in the parentheses of a label. -/
def operator (l : Label) : String :=
  match l.version with
  | none => l.op
  | some version => l.op ++ ", " ++ version

/-- The label as messages write it. -/
def text (l : Label) : String := "Node " ++ Text.quoted l.name ++ " (" ++ l.operator ++ ")"

end Label

end OperatorIR
