import OperatorIR.AttrValue.Text
import OperatorIR.Node.Basic

/-!
# Nodes in text

For inspection a node has an outline, a record of its name, its operator, its version and its
attributes, with texts and the names of attributes in quotes.

## Main definitions

* `OperatorIR.Node.outline` — the outline of a node.
* `OperatorIR.Node.compactText`, `spreadText` — the outline on one line, and spread out.
-/

set_option autoImplicit false

namespace OperatorIR

open Text (Outline quoted)

/-- The outline of a text that may be missing. -/
def optionalText : Option String → Outline
  | none => .leaf "None"
  | some text => .group "Some" .round [.leaf (quoted text)]

/-- The outline of attributes: each value behind its name. -/
def AttrMap.outline (m : AttrMap) : Outline :=
  .group "" .curly (m.entries.map fun entry => .labelled (quoted entry.1) entry.2.outline)

namespace Node

/-- The outline of a node. -/
def outline (n : Node) : Outline :=
  .group "Node" .record
    [.labelled "name" (.leaf (quoted n.name)),
      .labelled "op" (.leaf (quoted n.op)),
      .labelled "version" (optionalText n.version),
      .labelled "attrs" n.attrs.outline]

/-- The outline of a node on one line. -/
def compactText (n : Node) : String := n.outline.compact

/-- The outline of a node with one part to a line. -/
def spreadText (n : Node) : String := n.outline.spread 0

end Node

end OperatorIR
