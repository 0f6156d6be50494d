import OperatorIR.Proofs.Resolution

/-!
# What the extender for output types looks at

The extender for output types reads one attribute of a node and whether the node is of the extension
operator set, and it writes that attribute. All else about a node it only mentions in what it says.
So work on other attributes can be done before it or after it, and nodes that agree in what it reads
come out alike.

## Main results

* `OperatorIR.Extender.result_resolveOutputType` — success or failure, from what is read.
* `OperatorIR.Extender.node_resolveOutputType_setAttr`, `node_resolveOutputType_listAttr` — other
  attributes can be written, or turned into lists, before or after.
* `OperatorIR.Extender.result_eq_of_agree` — nodes that agree in what is read have one result.
* `OperatorIR.Extender.works_on_output_type_alone` — all of this together.
-/

set_option autoImplicit false

namespace OperatorIR.Extender

/-! ## What is read -/

/-- The result of the extender, from the version of a node and its output type. The label of the
node is mentioned where there is no output type, and nowhere else. -/
theorem result_resolveOutputType (n : Node) :
    (resolveOutputType n).result =
      if n.version = some "extension" then .ok ()
      else
        match n.attr? outputType with
        | none => .error (.ofFault (.missingAttr ⟨n.toLabel, outputType⟩))
        | some v =>
          match v.asOutputType with
          | .ok _ => .ok ()
          | .error fault => .error (.ofFault fault) := by
  cases hx : n.isExtension with
  | true => rw [if_pos (n.isExtension_iff.1 hx), resolveOutputType_extension hx]
  | false =>
    rw [if_neg (n.isExtension_eq_false_iff.1 hx)]
    cases hn : n.attr? outputType with
    | none =>
      rw [resolveOutputType_missing hx hn]
      rfl
    | some v =>
      cases hv : v.asOutputType with
      | ok t =>
        rw [resolveOutputType_ok hx hn hv]
        simp [Outcome.done, hv]
      | error fault =>
        rw [resolveOutputType_error hx hn hv]
        simp [Outcome.fail, hv]

/-- Nodes with one label and one output type have one result. -/
theorem result_resolveOutputType_congr {n m : Node} (hl : m.toLabel = n.toLabel)
    (ho : m.attr? outputType = n.attr? outputType) :
    (resolveOutputType m).result = (resolveOutputType n).result := by
  have hv : m.version = n.version := congrArg Label.version hl
  rw [result_resolveOutputType, result_resolveOutputType, hv, ho, hl]

/-- Nodes with one label have one log. -/
theorem log_resolveOutputType_congr {n m : Node} (hl : m.toLabel = n.toLabel) :
    (resolveOutputType m).log = (resolveOutputType n).log := by
  have hv : m.version = n.version := congrArg Label.version hl
  rw [log_resolveOutputType, log_resolveOutputType, hv, hl]

/-- The extender keeps the other attributes. -/
theorem attr?_resolveOutputType_of_ne (n : Node) {k : String} (h : k ≠ outputType) :
    (resolveOutputType n).node.attr? k = n.attr? k := by
  rw [node_resolveOutputType]
  split
  · rfl
  · rw [Node.attr?_mapAttr, if_neg h]

/-! ## Work on other attributes -/

section Others

variable (n : Node) {k : String}

/-- A replacement of another attribute can be made before or after. -/
theorem node_resolveOutputType_mapAttr (f : AttrValue → AttrValue) (h : k ≠ outputType) :
    (resolveOutputType (n.mapAttr k f)).node = (resolveOutputType n).node.mapAttr k f := by
  have hv : (n.mapAttr k f).version = n.version := congrArg Label.version (n.toLabel_mapAttr k f)
  rw [node_resolveOutputType, node_resolveOutputType, hv]
  split
  · rfl
  · exact n.mapAttr_mapAttr _ _ h

/-- Another attribute can be written before or after. -/
theorem node_resolveOutputType_setAttr (v : AttrValue) (h : k ≠ outputType) :
    (resolveOutputType (n.setAttr k v).1).node = ((resolveOutputType n).node.setAttr k v).1 := by
  calc (resolveOutputType (n.withAttr k v)).node
    _ = if n.version = some "extension" then n.withAttr k v
        else (n.withAttr k v).mapAttr outputType AttrValue.resolved := node_resolveOutputType _
    _ = (resolveOutputType n).node.withAttr k v := by
      rw [node_resolveOutputType, n.mapAttr_withAttr _ v h]
      split <;> rfl

/-- Another attribute can be turned into a list before or after. -/
theorem node_resolveOutputType_listAttr (h : k ≠ outputType) :
    (resolveOutputType (n.listAttr k).value).node =
      ((resolveOutputType n).node.listAttr k).value := by
  rw [Node.value_listAttr, Node.value_listAttr, node_resolveOutputType_mapAttr n _ h]

/-- A write to another attribute does not show in what the extender says. -/
theorem report_resolveOutputType_setAttr (v : AttrValue) (h : k ≠ outputType) :
    (resolveOutputType (n.setAttr k v).1).result = (resolveOutputType n).result ∧
      (resolveOutputType (n.setAttr k v).1).log = (resolveOutputType n).log := by
  have hl : (n.withAttr k v).toLabel = n.toLabel := n.toLabel_withAttr k v
  have ho : (n.withAttr k v).attr? outputType = n.attr? outputType := by
    rw [Node.attr?_withAttr, if_neg h.symm]
  exact ⟨result_resolveOutputType_congr hl ho, log_resolveOutputType_congr hl⟩

/-- Neither does a list made of another attribute. -/
theorem report_resolveOutputType_listAttr (h : k ≠ outputType) :
    (resolveOutputType (n.listAttr k).value).result = (resolveOutputType n).result ∧
      (resolveOutputType (n.listAttr k).value).log = (resolveOutputType n).log := by
  have hl : (n.listAttr k).value.toLabel = n.toLabel := n.toLabel_listAttr k
  have ho : (n.listAttr k).value.attr? outputType = n.attr? outputType := by
    rw [Node.attr?_listAttr, if_neg h.symm]
  exact ⟨result_resolveOutputType_congr hl ho, log_resolveOutputType_congr hl⟩

/-- The extender does not change what is said about a missing attribute. -/
theorem log_listAttr_resolveOutputType (h : k ≠ outputType) :
    ((resolveOutputType n).node.listAttr k).log = (n.listAttr k).log := by
  rw [Node.log_listAttr, Node.log_listAttr, attr?_resolveOutputType_of_ne n h,
    toLabel_resolveOutputType]

end Others

/-! ## Nodes with one output type -/

section OneOutputType

variable {n m : Node} (ho : m.attr? outputType = n.attr? outputType)
  (hx : m.version = some "extension" ↔ n.version = some "extension")

include ho hx

/-- The extender succeeds on both or on neither. -/
theorem result_eq_ok_iff_of_agree :
    (resolveOutputType m).result = .ok () ↔ (resolveOutputType n).result = .ok () := by
  rw [outputType] at ho
  rw [result_resolveOutputType_iff, result_resolveOutputType_iff, ho, hx]

/-- With an output type the results are the same, failures included. -/
theorem result_eq_of_agree (hp : n.attr? outputType ≠ none) :
    (resolveOutputType m).result = (resolveOutputType n).result := by
  rw [result_resolveOutputType, result_resolveOutputType, ho]
  by_cases h : n.version = some "extension"
  · rw [if_pos h, if_pos (hx.2 h)]
  · rw [if_neg h, if_neg (mt hx.1 h)]
    cases hn : n.attr? outputType with
    | none => exact absurd hn hp
    | some v => rfl

/-- The output types afterwards are the same. -/
theorem attr?_outputType_eq_of_agree :
    (resolveOutputType m).node.attr? outputType = (resolveOutputType n).node.attr? outputType := by
  by_cases h : n.version = some "extension"
  · rw [node_resolveOutputType, node_resolveOutputType, if_pos h, if_pos (hx.2 h), ho]
  · rw [attr?_resolveOutputType h, attr?_resolveOutputType (mt hx.1 h), ho]

end OneOutputType

/-! ## Reading and writing -/

/-- **The extender for output types works on the output type alone.** Another attribute can be
written, or turned into a list, before the extender or after it: the node in the end, what the
extender returns and logs, and what the other work returns and logs are the same. And nodes with one
output type, both or neither of the extension operator set, come out with one output type and both
succeed or both fail; they fail alike, unless there is no output type. -/
theorem works_on_output_type_alone (n : Node) :
    (∀ k v, k ≠ "output_type" →
      (resolveOutputType (n.setAttr k v).1).node = ((resolveOutputType n).node.setAttr k v).1 ∧
      (resolveOutputType (n.setAttr k v).1).result = (resolveOutputType n).result ∧
      (resolveOutputType (n.setAttr k v).1).log = (resolveOutputType n).log ∧
      ((resolveOutputType n).node.setAttr k v).2 = (n.setAttr k v).2) ∧
    (∀ k, k ≠ "output_type" →
      (resolveOutputType (n.listAttr k).value).node =
        ((resolveOutputType n).node.listAttr k).value ∧
      (resolveOutputType (n.listAttr k).value).result = (resolveOutputType n).result ∧
      (resolveOutputType (n.listAttr k).value).log = (resolveOutputType n).log ∧
      ((resolveOutputType n).node.listAttr k).log = (n.listAttr k).log) ∧
    ∀ m : Node, m.attr? "output_type" = n.attr? "output_type" →
      (m.version = some "extension" ↔ n.version = some "extension") →
      ((resolveOutputType m).result = .ok () ↔ (resolveOutputType n).result = .ok ()) ∧
      (resolveOutputType m).node.attr? "output_type" =
        (resolveOutputType n).node.attr? "output_type" ∧
      (n.attr? "output_type" ≠ none →
        (resolveOutputType m).result = (resolveOutputType n).result) := by
  refine ⟨?_, ?_, ?_⟩
  · intro k v hk
    obtain ⟨hresult, hlog⟩ := report_resolveOutputType_setAttr n v hk
    exact ⟨node_resolveOutputType_setAttr n v hk, hresult, hlog,
      attr?_resolveOutputType_of_ne n hk⟩
  · intro k hk
    obtain ⟨hresult, hlog⟩ := report_resolveOutputType_listAttr n hk
    exact ⟨node_resolveOutputType_listAttr n hk, hresult, hlog, log_listAttr_resolveOutputType n hk⟩
  · intro m ho hx
    exact ⟨result_eq_ok_iff_of_agree ho hx, attr?_outputType_eq_of_agree ho hx,
      result_eq_of_agree ho hx⟩

end OperatorIR.Extender
