import OperatorIR.Node.Text
import OperatorIR.Proofs.ByteOrder
import OperatorIR.Proofs.Dispatch
import OperatorIR.Proofs.Likeness
import OperatorIR.Proofs.Resolution

/-!
# Nodes by their history

A new node has no attributes. What it holds later is, under each name, the value that was written
last, and of the history of the writes nothing else is left: not their order, nor the values that
were written in between. Other work on the node replaces values that are there and adds no name.

## Main definitions

* `OperatorIR.Node.Write` — a call that writes an attribute.
* `OperatorIR.Node.Call` — a write, or other work on a node.
* `OperatorIR.Node.afterWrites`, `OperatorIR.Node.afterCalls` — the node after a run.

## Main results

* `OperatorIR.AttrMap.bytes_ascending_keys` — names are in the order of their bytes.
* `OperatorIR.Node.attr?_afterWrites` — an attribute after a run of writes.
* `OperatorIR.Node.afterWrites_eq_of_last?_eq` — runs with the same last values end alike.
* `OperatorIR.Node.mem_keys_afterCalls` — the names after any run of calls.
* `OperatorIR.Node.last_writes_are_held` — all of this for new nodes.
-/

set_option autoImplicit false

namespace OperatorIR

/-- The names of a map are in ascending order of their bytes. -/
theorem AttrMap.bytes_ascending_keys (m : AttrMap) :
    m.keys.Pairwise fun j k => Text.bytes j < Text.bytes k :=
  m.ascending_keys.imp fun h => (Text.bytes_lt_iff _ _).2 h

namespace Node

/-! ## Writes -/

/-- A call that writes an attribute, on a node that is being built or on one that is there. -/
inductive Write where
  | withAttr (key : String) (value : AttrValue)
  | setAttr (key : String) (value : AttrValue)

namespace Write

/-- The node after the call. -/
def apply : Write → Node → Node
  | withAttr key value, n => n.withAttr key value
  | setAttr key value, n => (n.setAttr key value).1

/-- What the call writes, and under which name. -/
def entry : Write → String × AttrValue
  | withAttr key value => (key, value)
  | setAttr key value => (key, value)

/-- What a run of calls writes, in order. -/
def entries (writes : List Write) : Keyed AttrValue := writes.map entry

/-- Both calls put the value under the name. -/
theorem apply_eq_withAttr (w : Write) (n : Node) : w.apply n = n.withAttr w.entry.1 w.entry.2 := by
  cases w <;> rfl

end Write

/-- The node after a run of writes. -/
def afterWrites (n : Node) (writes : List Write) : Node := writes.foldl (fun m w => w.apply m) n

/-- Writes keep the label. -/
theorem toLabel_afterWrites (n : Node) (writes : List Write) :
    (n.afterWrites writes).toLabel = n.toLabel := by
  induction writes generalizing n with
  | nil => rfl
  | cons w writes ih =>
    calc ((w.apply n).afterWrites writes).toLabel
      _ = (w.apply n).toLabel := ih _
      _ = n.toLabel := by rw [w.apply_eq_withAttr, toLabel_withAttr]

/-- **After a run of writes** the last value written under a name counts; without one, what was
there before. -/
theorem attr?_afterWrites (n : Node) (writes : List Write) (k : String) :
    (n.afterWrites writes).attr? k = ((Write.entries writes).last? k).or (n.attr? k) := by
  induction writes generalizing n with
  | nil => rfl
  | cons w writes ih =>
    have hlast : (Write.entries (w :: writes)).last? k =
        ((Write.entries writes).last? k).or (if k = w.entry.1 then some w.entry.2 else none) :=
      Keyed.last?_cons w.entry (Write.entries writes) k
    calc ((w.apply n).afterWrites writes).attr? k
      _ = ((Write.entries writes).last? k).or ((w.apply n).attr? k) := ih _
      _ = ((Write.entries (w :: writes)).last? k).or (n.attr? k) := by
        rw [w.apply_eq_withAttr, attr?_withAttr, hlast, Option.or_assoc]
        split <;> rfl

/-- In a new node that is written an attribute is what was written last. -/
theorem attr?_afterWrites_ofName (name op : String) (writes : List Write) (k : String) :
    ((ofName name op).afterWrites writes).attr? k = (Write.entries writes).last? k := by
  rw [attr?_afterWrites, attr?_ofName, Option.or_none]

example : ((ofName "p" "Pad").afterWrites [.setAttr "pads" (.int 1), .withAttr "axis" (.int 0),
    .setAttr "pads" (.int 2)]).attrs.entries = [("axis", .int 0), ("pads", .int 2)] := rfl

/-- **Runs of writes with the same last values end in the same node.** -/
theorem afterWrites_eq_of_last?_eq (n : Node) {xs ys : List Write}
    (h : ∀ k, (Write.entries xs).last? k = (Write.entries ys).last? k) :
    n.afterWrites xs = n.afterWrites ys := by
  refine ext_attr? ?_ fun k => ?_
  · rw [toLabel_afterWrites, toLabel_afterWrites]
  · rw [attr?_afterWrites, attr?_afterWrites, h k]

/-- Reading an attribute succeeds if it is found by any other way. -/
theorem exists_attr_eq_ok_iff (n : Node) (k : String) :
    (∃ v, n.attr k = .ok v) ↔ n.hasAttr k = true := by
  simp only [attr_eq_ok_iff, hasAttr_iff]

/-! ## Other work -/

/-- Resolving the output type keeps the names, also where it fails. -/
@[simp] theorem keys_resolveOutputType (n : Node) :
    (Extender.resolveOutputType n).node.attrs.keys = n.attrs.keys := by
  rw [Extender.node_resolveOutputType]
  split
  · rfl
  · exact n.keys_mapAttr _ _

/-- So does the standard reader. -/
@[simp] theorem keys_extend_standard (n : Node) :
    (Reader.standard.extend n).node.attrs.keys = n.attrs.keys := by
  rw [Reader.node_extend_standard]
  split
  · exact keys_resolveOutputType n
  · rfl

/-- A call on a node: a write, or work on the attributes that are there. One of them is turned into
a list, or the output type is resolved, or the standard reader extends the node. -/
inductive Call where
  | write (w : Write)
  | listAttr (key : String)
  | resolve
  | extend

namespace Call

/-- The node after the call, whether or not it failed. -/
def apply : Call → Node → Node
  | write w, n => w.apply n
  | listAttr key, n => (n.listAttr key).value
  | resolve, n => (Extender.resolveOutputType n).node
  | extend, n => (Reader.standard.extend n).node

/-- What the call writes: only a write does. -/
def writes : Call → Keyed AttrValue
  | write w => [w.entry]
  | _ => []

/-- What a run of calls writes, in order. -/
def entries (calls : List Call) : Keyed AttrValue := calls.flatMap writes

/-- The names after a call are those before it and the one it writes, if it does. -/
theorem mem_keys_apply (a : Call) (n : Node) (k : String) :
    k ∈ (a.apply n).attrs.keys ↔ k ∈ a.writes.names ∨ k ∈ n.attrs.keys := by
  cases a with
  | write w =>
    rw [apply, w.apply_eq_withAttr, writes, Keyed.names_cons, Keyed.names_nil, List.mem_singleton]
    exact AttrMap.mem_names_put
  | _ => simp [apply, writes]

end Call

/-- The node after a run of calls. -/
def afterCalls (n : Node) (calls : List Call) : Node := calls.foldl (fun m a => a.apply m) n

/-- **After any run of calls** the names are those before it and those that it writes. -/
theorem mem_keys_afterCalls (n : Node) (calls : List Call) (k : String) :
    k ∈ (n.afterCalls calls).attrs.keys ↔ k ∈ (Call.entries calls).names ∨ k ∈ n.attrs.keys := by
  induction calls generalizing n with
  | nil => simp [afterCalls, Call.entries]
  | cons a calls ih =>
    have hnames :
        (Call.entries (a :: calls)).names = a.writes.names ++ (Call.entries calls).names :=
      List.map_append
    calc k ∈ ((a.apply n).afterCalls calls).attrs.keys
      _ ↔ k ∈ (Call.entries calls).names ∨ k ∈ (a.apply n).attrs.keys := ih _
      _ ↔ k ∈ (Call.entries (a :: calls)).names ∨ k ∈ n.attrs.keys := by
        rw [a.mem_keys_apply, hnames, List.mem_append, or_left_comm, or_assoc]

/-! ## New nodes -/

/-- The node holds what was written last under each name: the names are in ascending order of their
bytes, each once, and every way to read one agrees with the last entry under it. Reading a name
without an entry fails in words that name the node. -/
structure Holds (n : Node) (entries : Keyed AttrValue) : Prop where
  ascending : n.attrs.keys.Pairwise fun j k => Text.bytes j < Text.bytes k
  nodup : n.attrs.keys.Nodup
  mem_keys : ∀ k, k ∈ n.attrs.keys ↔ k ∈ entries.names
  attr? : ∀ k, n.attr? k = entries.last? k
  hasAttr : ∀ k, n.hasAttr k = true ↔ k ∈ entries.names
  attr_ok : ∀ k, (∃ v, n.attr k = .ok v) ↔ k ∈ entries.names
  attr_error : ∀ k e, n.attr k = .error e → e.message = n.text ++ " has no attribute " ++ k

/-- A new node that is written holds what was written last. -/
theorem holds_afterWrites (name op : String) (writes : List Write) :
    ((ofName name op).afterWrites writes).Holds (Write.entries writes) := by
  have hattr := attr?_afterWrites_ofName name op writes
  have hhas : ∀ k, ((ofName name op).afterWrites writes).hasAttr k = true ↔
      k ∈ (Write.entries writes).names := by
    intro k
    rw [← Keyed.isSome_last?_iff, ← hattr k]
    rfl
  refine
    { ascending := AttrMap.bytes_ascending_keys _
      nodup := AttrMap.nodup_keys _
      mem_keys := fun k => (AttrMap.mem_keys_iff _ k).trans (hhas k)
      attr? := hattr
      hasAttr := hhas
      attr_ok := ?_
      attr_error := ?_ }
  · intro k
    rw [exists_attr_eq_ok_iff, hhas]
  · intro k e he
    obtain ⟨-, rfl⟩ := (attr_eq_error_iff _ k e).1 he
    rfl

/-- **A new node holds what was written last**, after any run of writes. Each call that returns the
value from before returns the last one written until then. Another run with the same last values
ends in the same node, with the same text. With other work in between, failing or not, the names
stay in order, each once, and they are those that were written: nothing but a write adds a name or
takes one away. -/
theorem last_writes_are_held (name op : String) (writes : List Write) :
    ((ofName name op).afterWrites writes).Holds (Write.entries writes) ∧
    (∀ past k v later, writes = past ++ .setAttr k v :: later →
      (ofName name op).afterWrites writes =
          (((ofName name op).afterWrites past).setAttr k v).1.afterWrites later ∧
        (((ofName name op).afterWrites past).setAttr k v).2 =
          ((ofName name op).afterWrites past).attr? k ∧
        (((ofName name op).afterWrites past).setAttr k v).2 = (Write.entries past).last? k) ∧
    (∀ other, (∀ k, (Write.entries other).last? k = (Write.entries writes).last? k) →
      (ofName name op).afterWrites other = (ofName name op).afterWrites writes ∧
        ((ofName name op).afterWrites other).compactText =
          ((ofName name op).afterWrites writes).compactText) ∧
    (∀ calls : List Call,
      (((ofName name op).afterCalls calls).attrs.keys.Pairwise
          fun j k => Text.bytes j < Text.bytes k) ∧
        ((ofName name op).afterCalls calls).attrs.keys.Nodup ∧
        ∀ k, k ∈ ((ofName name op).afterCalls calls).attrs.keys ↔ k ∈ (Call.entries calls).names) ∧
    ∀ n : Node, (∀ k, (n.listAttr k).value.attrs.keys = n.attrs.keys) ∧
      (Extender.resolveOutputType n).node.attrs.keys = n.attrs.keys ∧
      (Reader.standard.extend n).node.attrs.keys = n.attrs.keys := by
  refine ⟨holds_afterWrites name op writes, ?_, ?_, ?_, ?_⟩
  · intro past k v later h
    refine ⟨?_, rfl, attr?_afterWrites_ofName name op past k⟩
    rw [h, afterWrites, List.foldl_append]
    rfl
  · intro other h
    have heq := afterWrites_eq_of_last?_eq (ofName name op) h
    exact ⟨heq, congrArg compactText heq⟩
  · intro calls
    refine ⟨AttrMap.bytes_ascending_keys _, AttrMap.nodup_keys _, fun k => ?_⟩
    have hnew : k ∉ (ofName name op).attrs.keys := List.not_mem_nil
    rw [mem_keys_afterCalls, or_iff_left hnew]
  · intro n
    exact ⟨n.keys_listAttr, n.keys_resolveOutputType, n.keys_extend_standard⟩

end Node

end OperatorIR
