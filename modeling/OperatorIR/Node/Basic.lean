import OperatorIR.AttrMap
import OperatorIR.Node.Label

/-!
# Nodes

A node is one application of an operator: its label and its attributes. Nodes are built from a
name and an operator and then written attribute by attribute; reading an attribute that is not
there is a failure that names the node as it was.

## Main definitions

* `OperatorIR.Node` — a label with attributes.
* `OperatorIR.Node.ofName`, `withVersion`, `withAttr` — building a node.
* `OperatorIR.Node.attr?`, `hasAttr`, `attr` — reading an attribute.
* `OperatorIR.Node.setAttr` — writing one.
* `OperatorIR.MissingAttr` — the failure to read one.

## Main results

* `OperatorIR.Node.attr?_withAttr` — reading after writing.
* `OperatorIR.Node.attr_eq_ok_iff`, `attr_eq_error_iff` — when reading succeeds, and when not.
-/

set_option autoImplicit false

namespace OperatorIR

/-- One application of an operator. -/
structure Node extends Label where
  /-- The attributes by name. -/
  attrs : AttrMap

/-- An attribute was read that the node does not have. -/
structure MissingAttr where
  /-- The node, as it was then. -/
  node : Label
  /-- The name of the attribute. -/
  key : String
  deriving DecidableEq

/-- What is said about a missing attribute. -/
def MissingAttr.message (m : MissingAttr) : String :=
  m.node.text ++ " has no attribute " ++ m.key

namespace Node

/-! ## Building -/

/-- The node with the given name and operator, without a version and without attributes. -/
def ofName (name op : String) : Node := ⟨⟨name, op, none⟩, AttrMap.empty⟩

/-- The node with its version set. -/
def withVersion (n : Node) (version : String) : Node := { n with version := some version }

/-- The node with an attribute written, in the place of an earlier one of that name. -/
def withAttr (n : Node) (key : String) (value : AttrValue) : Node :=
  { n with attrs := n.attrs.insert key value }

/-! ## Reading and writing -/

/-- The attribute of the given name, if there is one. -/
def attr? (n : Node) (key : String) : Option AttrValue := n.attrs.get? key

/-- Is there an attribute of the given name? -/
def hasAttr (n : Node) (key : String) : Bool := n.attrs.contains key

/-- The attribute of the given name, which should be there. -/
def attr (n : Node) (key : String) : Except MissingAttr AttrValue :=
  match n.attr? key with
  | some value => .ok value
  | none => .error ⟨n.toLabel, key⟩

/-- The node with an attribute written, and the value that the attribute had before. -/
def setAttr (n : Node) (key : String) (value : AttrValue) : Node × Option AttrValue :=
  (n.withAttr key value, n.attr? key)

/-- Nodes are equal when their labels are and their attributes agree as values. -/
instance : BEq Node := ⟨fun a b => a.toLabel == b.toLabel && a.attrs == b.attrs⟩

/-! ## Reading after writing -/

/-- Writing an attribute keeps the label. -/
@[simp] theorem toLabel_withAttr (n : Node) (key : String) (value : AttrValue) :
    (n.withAttr key value).toLabel = n.toLabel := rfl

/-- Nothing is found in a new node. -/
@[simp] theorem attr?_ofName (name op key : String) : (ofName name op).attr? key = none :=
  AttrMap.get?_empty key

/-- Reading after writing. -/
theorem attr?_withAttr (n : Node) (key : String) (value : AttrValue) (k : String) :
    (n.withAttr key value).attr? k = if k = key then some value else n.attr? k :=
  n.attrs.get?_insert key value k

/-- There is an attribute exactly when one is found. -/
theorem hasAttr_iff (n : Node) (key : String) :
    n.hasAttr key = true ↔ ∃ value, n.attr? key = some value :=
  Option.isSome_iff_exists

/-- Reading succeeds exactly with what is there. -/
theorem attr_eq_ok_iff (n : Node) (key : String) (value : AttrValue) :
    n.attr key = .ok value ↔ n.attr? key = some value := by
  unfold attr
  cases n.attr? key <;> simp

/-- Reading fails exactly when nothing is there, and names the node and the attribute. -/
theorem attr_eq_error_iff (n : Node) (key : String) (e : MissingAttr) :
    n.attr key = .error e ↔ n.attr? key = none ∧ e = ⟨n.toLabel, key⟩ := by
  unfold attr
  cases n.attr? key <;> simp [eq_comm]

/-- Nodes with one label that agree at every attribute are the same. -/
theorem ext_attr? {a b : Node} (hl : a.toLabel = b.toLabel) (h : ∀ k, a.attr? k = b.attr? k) :
    a = b := by
  obtain ⟨la, ma⟩ := a
  obtain ⟨lb, mb⟩ := b
  obtain rfl : la = lb := hl
  obtain rfl : ma = mb := AttrMap.ext_get? h
  rfl

/-- Writing what is there changes nothing. -/
theorem withAttr_of_attr? {n : Node} {key : String} {value : AttrValue}
    (h : n.attr? key = some value) : n.withAttr key value = n := by
  refine ext_attr? rfl fun k => ?_
  rw [attr?_withAttr]
  split
  next hk => rw [hk, h]
  next => rfl

end Node

end OperatorIR
