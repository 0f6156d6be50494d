import OperatorIR.Node.ListAttr
import OperatorIR.Proofs.Dispatch
import OperatorIR.Proofs.OneLine
import OperatorIR.Proofs.Resolution

/-!
# Messages on one line

A file may give any text for the name of a node and for its attributes. What is logged about a node
and what is said when work on it fails stays on one line all the same, since these texts are quoted.
The exceptions are the texts that messages show as they are: the operator, the version, the name of
an attribute that is looked for, and an output type that is a text but no token.

## Main definitions

* `OperatorIR.Outcome.OneLine` — all that an outcome says is on one line.
* `OperatorIR.Node.Unbroken` — the texts of a node that messages show as they are have no line
  breaks.

## Main results

* `OperatorIR.Node.Refusal.oneLine` — what is said about an output type that is refused.
* `OperatorIR.Extender.oneLine_resolveOutputType`, `OperatorIR.Reader.oneLine_extend_standard` —
  what comes out of the work on a node.
* `OperatorIR.Node.messages_stay_on_one_line` — all messages about nodes, and the texts of values.
-/

set_option autoImplicit false

namespace OperatorIR

open Text (OneLine oneLine_append)

/-! ## Outcomes -/

/-- Every line that was logged and every message in the chain of a failure is on one line. -/
structure Outcome.OneLine (o : Outcome) : Prop where
  log : ∀ line ∈ o.log, Text.OneLine line.text
  messages : ∀ e, o.result = .error e → ∀ message ∈ e.messages, Text.OneLine message

namespace Outcome

/-- Success without any lines says nothing. -/
theorem oneLine_done (n : Node) : (done n).OneLine := ⟨nofun, nofun⟩

/-- Success with one line says what is in the line. -/
theorem oneLine_logged (n : Node) {line : LogLine} (h : Text.OneLine line.text) :
    OneLine ⟨n, [line], .ok ()⟩ where
  log := List.forall_mem_singleton.2 h
  messages := nofun

/-- A failure with one fault has one message. -/
theorem oneLine_fail (n : Node) {fault : Fault} (h : Text.OneLine fault.message) :
    (fail n fault).OneLine where
  log := nofun
  messages := by
    rintro e he message hmessage
    obtain rfl : Failure.ofFault fault = e := Except.error.inj he
    rw [List.mem_singleton.1 hmessage]
    exact h

/-- Lines in front add what they say. -/
theorem OneLine.after {o : Outcome} (h : o.OneLine) {lines : List LogLine}
    (hl : ∀ line ∈ lines, Text.OneLine line.text) : (o.after lines).OneLine where
  log := by
    intro line hline
    rw [log_after] at hline
    rcases List.mem_append.1 hline with hline | hline
    · exact hl line hline
    · exact h.log line hline
  messages := h.messages

/-- A context adds its own message. -/
theorem OneLine.within {o : Outcome} (h : o.OneLine) {context : Fault}
    (hc : Text.OneLine context.message) : (o.within context).OneLine where
  log := by
    rw [log_within]
    exact h.log
  messages := by
    intro e he message hmessage
    cases hresult : o.result with
    | ok u =>
      have hok : (o.within context).result = .ok u := by rw [Outcome.within, hresult]; rfl
      rw [hok] at he
      cases he
    | error e' =>
      rw [result_within_of_error context hresult] at he
      obtain rfl := Except.error.inj he
      rcases List.mem_cons.1 hmessage with rfl | hmessage
      · exact hc
      · exact h.messages e' hresult message hmessage

end Outcome

/-! ## What messages show as it is -/

/-- The operator, the version, and the output type if it is a text, have no line breaks. -/
structure Node.Unbroken (n : Node) : Prop where
  op : OneLine n.op
  version : ∀ version, n.version = some version → OneLine version
  outputType : ∀ text, n.attr? "output_type" = some (.string text) → OneLine text

namespace Node

variable {n : Node}

/-- A label is on one line, whatever the name of the node. -/
theorem Unbroken.oneLine_text (h : n.Unbroken) : OneLine n.text := by
  have hoperator : OneLine n.operator := by
    unfold Label.operator
    split
    · exact h.op
    next version hv =>
      simp only [oneLine_append]
      exact ⟨⟨h.op, by decide⟩, h.version version hv⟩
  rw [Label.text]
  simp only [oneLine_append]
  exact ⟨⟨⟨⟨by decide, Text.oneLine_quoted n.name⟩, by decide⟩, hoperator⟩, by decide⟩

/-- What is said about a missing attribute. -/
theorem Unbroken.oneLine_missingAttr (h : n.Unbroken) {key : String} (hk : OneLine key) :
    OneLine (MissingAttr.message ⟨n.toLabel, key⟩) := by
  rw [MissingAttr.message]
  simp only [oneLine_append]
  exact ⟨⟨h.oneLine_text, by decide⟩, hk⟩

/-- **What is said about an output type that is refused** is on one line, of whatever kind and
however deep the value is. -/
theorem Refusal.oneLine {message : String} (hr : n.Refusal message) (h : n.Unbroken) :
    OneLine message := by
  cases hr with
  | missing hn =>
    simp only [oneLine_append]
    exact ⟨h.oneLine_text, by decide⟩
  | unknown text hn ht =>
    have htokens : OneLine (", ".intercalate (ElementType.all.map ElementType.token)) := by decide
    simp only [oneLine_append]
    exact ⟨⟨⟨⟨by decide, h.outputType text hn⟩, by decide⟩, htokens⟩, by decide⟩
  | otherKind v hn hs ht =>
    simp only [oneLine_append]
    exact ⟨⟨⟨by decide, v.oneLine_kind⟩, by decide⟩, v.oneLine_display⟩

end Node

/-! ## Work on a node -/

/-- **Resolving an output type** says everything on one line. -/
theorem Extender.oneLine_resolveOutputType {n : Node} (h : n.Unbroken) :
    (resolveOutputType n).OneLine := by
  rcases resolveOutputType_cases n with ⟨-, heq⟩ | ⟨-, ⟨t, -, heq⟩ | ⟨t, -, heq⟩ | ⟨fault, hf, heq⟩⟩
  · rw [heq]
    exact Outcome.oneLine_logged n (oneLine_append.2 ⟨h.oneLine_text, by decide⟩)
  · rw [heq]
    exact Outcome.oneLine_done n
  · rw [heq]
    exact Outcome.oneLine_done _
  · rw [heq]
    exact Outcome.oneLine_fail n (hf.oneLine h)

/-- **Extending a node by the standard reader** says everything on one line. The context of a
failure names the node as it is then; its label is still the same. -/
theorem Reader.oneLine_extend_standard {n : Node} (h : n.Unbroken) :
    (standard.extend n).OneLine := by
  have hfor := extenderFor_standard n.op
  split at hfor
  next hop =>
    have hextending : OneLine ("Extending " ++ n.text) :=
      oneLine_append.2 ⟨by decide, h.oneLine_text⟩
    have hcontext : OneLine (Fault.extending n.toLabel).message := hextending
    rw [extend_of_some hfor, Extender.toLabel_resolveOutputType]
    exact ((Extender.oneLine_resolveOutputType h).within hcontext).after
      (List.forall_mem_singleton.2 hextending)
  next hop =>
    rw [extend_of_none hfor]
    exact Outcome.oneLine_logged n (oneLine_append.2 ⟨by decide, h.oneLine_text⟩)

namespace Node

/-- Turning an attribute into a list logs nothing, or one warning on one line. -/
theorem Unbroken.oneLine_log_listAttr {n : Node} (h : n.Unbroken) {key : String}
    (hk : OneLine key) : ∀ line ∈ (n.listAttr key).log, OneLine line.text := by
  intro line hline
  unfold listAttr at hline
  split at hline
  · rw [List.mem_singleton.1 hline]
    simp only [oneLine_append]
    exact ⟨⟨⟨h.oneLine_text, by decide⟩, hk⟩, by decide⟩
  · exact absurd hline List.not_mem_nil

/-- **Messages stay on one line.** Let the operator and the version of a node have no line breaks,
nor its output type if that is a text; its name and its other attributes may be anything. Then the
lines and the messages that come from resolving the output type, from extending the node by the
standard reader, from reading an attribute and from turning one into a list are on one line each,
if the name of the attribute is. Values in either text, and nodes for inspection, are always. -/
theorem messages_stay_on_one_line :
    (∀ n : Node, n.Unbroken →
      (Extender.resolveOutputType n).OneLine ∧
      (Reader.standard.extend n).OneLine ∧
      ∀ key, OneLine key →
        (∀ e, n.attr key = .error e → OneLine e.message) ∧
        ∀ line ∈ (n.listAttr key).log, OneLine line.text) ∧
    (∀ v : AttrValue, OneLine v.display ∧ OneLine v.compactText) ∧
    ∀ n : Node, OneLine n.compactText := by
  refine ⟨fun n h => ?_, fun v => ⟨v.oneLine_display, v.oneLine_compactText⟩, oneLine_compactText⟩
  refine ⟨Extender.oneLine_resolveOutputType h, Reader.oneLine_extend_standard h, fun key hk => ?_⟩
  refine ⟨fun e he => ?_, h.oneLine_log_listAttr hk⟩
  obtain ⟨-, rfl⟩ := (n.attr_eq_error_iff key e).1 he
  exact h.oneLine_missingAttr hk

/-- A node with line breaks in its name and inside its output type, which is refused, and an
attribute that it does not have. -/
theorem messages_stay_on_one_line_nested :
    let n := (ofName "a\nb" "Bucketize").withAttr "output_type" (.list [.string "c\nd"])
    n.Unbroken ∧ (Reader.standard.extend n).succeeds = false ∧ (Reader.standard.extend n).OneLine ∧
      OneLine "axis" ∧ OneLine (MissingAttr.message ⟨n.toLabel, "axis"⟩) := by
  intro n
  have hlist : n.attr? "output_type" = some (.list [.string "c\nd"]) := by
    rw [attr?_withAttr, if_pos rfl]
  have hn : n.Unbroken := {
    op := by decide
    version := nofun
    outputType := fun text htext => absurd (Option.some.inj (hlist.symm.trans htext)) nofun }
  have hkey : OneLine "axis" := by decide
  have hmissing : n.attr "axis" = .error ⟨n.toLabel, "axis"⟩ := rfl
  obtain ⟨-, hextend, hattr⟩ := messages_stay_on_one_line.1 n hn
  exact ⟨hn, by decide, hextend, hkey, (hattr "axis" hkey).1 _ hmissing⟩

end Node

end OperatorIR
