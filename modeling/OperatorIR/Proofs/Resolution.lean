import OperatorIR.Extender.OutputType
import OperatorIR.Proofs.AttrUpdate

/-!
# Resolving output types

What the extender for output types does to a node as a whole: when it succeeds, what it changes,
and what it says when it fails.

## Main definitions

* `OperatorIR.AttrValue.resolved` — the value that stands in the place of an output type.
* `OperatorIR.Node.Retyped` — two nodes differ in the output type only.
* `OperatorIR.Node.Refusal` — the message with which an output type is refused.

## Main results

* `OperatorIR.Extender.resolveOutputType_cases` — the four ways in which the extender ends.
* `OperatorIR.Extender.node_resolveOutputType` — the node afterwards, as a replacement.
* `OperatorIR.Extender.resolves_exactly_tokens` — success, change, message and log, for all nodes.
-/

set_option autoImplicit false

namespace OperatorIR

/-! ## The value of an output type -/

namespace AttrValue

/-- The value that stands in the place of an output type: a destination token is replaced by the
type that it names, and any other value stays. -/
def resolved (v : AttrValue) : AttrValue :=
  match v.asOutputType with
  | .ok t => elementType t
  | .error _ => v

/-- A text that is read as a token stands for its type. -/
theorem asOutputType_of_ok {text : String} {t : ElementType}
    (h : ElementType.ofToken text = .ok t) : (string text).asOutputType = .ok t := by
  rw [asOutputType, h]
  rfl

/-- A text that is refused as a token is refused as an output type. -/
theorem asOutputType_of_error {text : String} {e : UnknownName}
    (h : ElementType.ofToken text = .error e) :
    (string text).asOutputType = .error (.unknownName e) := by
  rw [asOutputType, h]
  rfl

/-- A value stands for a type if it is that type or its token. -/
theorem asOutputType_eq_ok_iff (v : AttrValue) (t : ElementType) :
    v.asOutputType = .ok t ↔ v = elementType t ∨ v = string t.token := by
  cases v with
  | string text =>
    have hiff := ElementType.ofToken_eq_ok_iff text t
    cases h : ElementType.ofToken text with
    | ok s =>
      rw [h] at hiff
      simpa [asOutputType_of_ok h, eq_comm] using hiff
    | error e =>
      rw [h] at hiff
      simpa [asOutputType_of_error h, eq_comm] using hiff
  | elementType s => simp [asOutputType]
  | _ => simp [asOutputType]

/-- A value that stands for no type is a text that is no token, or of another kind. -/
theorem asOutputType_eq_error {v : AttrValue} {fault : Fault} (h : v.asOutputType = .error fault) :
    (∃ text, v = string text ∧ (∀ t : ElementType, t.token ≠ text) ∧
        fault = .unknownName (.token text)) ∨
      ((∀ text, v ≠ string text) ∧ (∀ t, v ≠ elementType t) ∧ fault = .noOutputType v) := by
  cases v with
  | string text =>
    cases ht : ElementType.ofToken text with
    | ok t => simp [asOutputType_of_ok ht] at h
    | error e =>
      obtain ⟨rfl, hn⟩ := (ElementType.ofToken_eq_error_iff text e).1 ht
      rw [asOutputType_of_error ht] at h
      exact Or.inl ⟨text, rfl, hn, (Except.error.inj h).symm⟩
  | elementType t => simp [asOutputType] at h
  | _ =>
    simp only [asOutputType, Except.error.injEq] at h
    exact Or.inr ⟨by simp, by simp, h.symm⟩

/-- A value that stands for a type is replaced by the type. -/
theorem resolved_of_ok {v : AttrValue} {t : ElementType} (h : v.asOutputType = .ok t) :
    v.resolved = elementType t := by
  rw [resolved, h]

/-- A value that stands for none is kept. -/
theorem resolved_of_error {v : AttrValue} {fault : Fault} (h : v.asOutputType = .error fault) :
    v.resolved = v := by
  rw [resolved, h]

/-- The token of a type is replaced by the type. -/
@[simp] theorem resolved_token (t : ElementType) : (string t.token).resolved = elementType t :=
  resolved_of_ok ((asOutputType_eq_ok_iff _ t).2 (Or.inr rfl))

/-- A value is replaced by another one exactly if it is the token of a type. -/
theorem resolved_ne_self_iff (v : AttrValue) :
    v.resolved ≠ v ↔ ∃ t : ElementType, v = string t.token := by
  constructor
  · intro h
    cases hv : v.asOutputType with
    | ok t =>
      rcases (asOutputType_eq_ok_iff v t).1 hv with rfl | rfl
      · exact absurd rfl h
      · exact ⟨t, rfl⟩
    | error fault => exact absurd (resolved_of_error hv) h
  · rintro ⟨t, rfl⟩
    simp

/-- Replacing a value again changes nothing. -/
@[simp] theorem resolved_resolved (v : AttrValue) : v.resolved.resolved = v.resolved := by
  cases h : v.asOutputType with
  | ok t =>
    rw [resolved_of_ok h]
    exact resolved_of_ok rfl
  | error fault => rw [resolved_of_error h, resolved_of_error h]

end AttrValue

/-! ## The extender on a node -/

/-- What is said about a missing output type. -/
theorem Fault.message_missing_outputType (l : Label) :
    (missingAttr ⟨l, outputType⟩).message = l.text ++ " has no attribute output_type" := by
  calc (missingAttr ⟨l, outputType⟩).message
    _ = l.text ++ (" has no attribute " ++ outputType) := String.append_assoc
    _ = l.text ++ " has no attribute output_type" := congrArg (l.text ++ ·) (by decide)

namespace Node

/-- A node of the extension operator set is one with its version. -/
theorem isExtension_iff (n : Node) : n.isExtension = true ↔ n.version = some "extension" :=
  decide_eq_true_iff

/-- A node of another operator set has another version, or none. -/
theorem isExtension_eq_false_iff (n : Node) :
    n.isExtension = false ↔ n.version ≠ some "extension" :=
  decide_eq_false_iff_not

/-- The second node is the first with its output type set, and differs in nothing else: name,
operator, version and all other attributes are the same, and there are no more and no fewer. -/
structure Retyped (n m : Node) (t : ElementType) : Prop where
  label : m.toLabel = n.toLabel
  keys : m.attrs.keys = n.attrs.keys
  outputType : m.attr? "output_type" = some (.elementType t)
  others : ∀ k, k ≠ "output_type" → m.attr? k = n.attr? k

/-- The message with which the output type of a node is refused: there is none, or it is a text
but no destination token, or it is of another kind. -/
inductive Refusal (n : Node) : String → Prop
  | missing (h : n.attr? "output_type" = none) :
      Refusal n (n.text ++ " has no attribute output_type")
  | unknown (text : String) (h : n.attr? "output_type" = some (.string text))
      (hn : ∀ t : ElementType, t.token ≠ text) :
      Refusal n ("Destination type \"" ++ text ++ "\" is not supported (expected one of "
        ++ ", ".intercalate (ElementType.all.map ElementType.token) ++ ")")
  | otherKind (v : AttrValue) (h : n.attr? "output_type" = some v)
      (hs : ∀ text, v ≠ .string text) (ht : ∀ t, v ≠ .elementType t) :
      Refusal n ("Expected a destination type token for output_type, got "
        ++ v.kind ++ " " ++ v.display)

/-- An output type that is refused is neither a type nor the token of one. -/
theorem Refusal.not_type {n : Node} {message : String} (h : n.Refusal message) (t : ElementType) :
    n.attr? "output_type" ≠ some (.elementType t) ∧
      n.attr? "output_type" ≠ some (.string t.token) := by
  cases h with
  | missing h => simp [h]
  | unknown text h hn =>
    rw [h]
    refine ⟨by simp, ?_⟩
    intro heq
    exact hn t (AttrValue.string.inj (Option.some.inj heq)).symm
  | otherKind v h hs ht =>
    rw [h]
    refine ⟨?_, ?_⟩
    · exact fun heq => ht t (Option.some.inj heq)
    · exact fun heq => hs t.token (Option.some.inj heq)

/-- With its token replaced by the type, a node is retyped. -/
theorem retyped_mapAttr {n : Node} {t : ElementType}
    (h : n.attr? outputType = some (.string t.token)) :
    n.Retyped (n.mapAttr outputType AttrValue.resolved) t where
  label := n.toLabel_mapAttr _ _
  keys := n.keys_mapAttr _ _
  outputType := by
    calc (n.mapAttr outputType AttrValue.resolved).attr? outputType
      _ = (n.attr? outputType).map AttrValue.resolved := by rw [attr?_mapAttr, if_pos rfl]
      _ = some (.elementType t) := by rw [h, Option.map_some, AttrValue.resolved_token]
  others k hk := by
    rw [attr?_mapAttr]
    exact if_neg hk

end Node

namespace Extender

/-- **The four ways in which the extender ends.** A node of the extension operator set is left
alone; so is a node that has its type; a token is replaced by its type; anything else is refused
before anything is written. -/
theorem resolveOutputType_cases (n : Node) :
    (n.version = some "extension" ∧ resolveOutputType n =
      ⟨n, [⟨.trace, n.text ++ " is an extension, keeping output_type as is"⟩], .ok ()⟩) ∨
    (n.version ≠ some "extension" ∧
      ((∃ t, n.attr? outputType = some (.elementType t) ∧ resolveOutputType n = .done n) ∨
        (∃ t : ElementType, n.attr? outputType = some (.string t.token) ∧
          resolveOutputType n = .done (n.withAttr outputType (.elementType t))) ∨
        ∃ fault : Fault, n.Refusal fault.message ∧ resolveOutputType n = .fail n fault)) := by
  cases hx : n.isExtension with
  | true => exact Or.inl ⟨n.isExtension_iff.1 hx, resolveOutputType_extension hx⟩
  | false =>
    refine Or.inr ⟨n.isExtension_eq_false_iff.1 hx, ?_⟩
    cases hn : n.attr? outputType with
    | none =>
      refine Or.inr (Or.inr ⟨_, ?_, resolveOutputType_missing hx hn⟩)
      rw [Fault.message_missing_outputType]
      exact .missing hn
    | some v =>
      cases hv : v.asOutputType with
      | ok t =>
        have hr := resolveOutputType_ok hx hn hv
        rcases (v.asOutputType_eq_ok_iff t).1 hv with rfl | rfl
        · rw [Node.withAttr_of_attr? hn] at hr
          exact Or.inl ⟨t, rfl, hr⟩
        · exact Or.inr (Or.inl ⟨t, rfl, hr⟩)
      | error fault =>
        refine Or.inr (Or.inr ⟨fault, ?_, resolveOutputType_error hx hn hv⟩)
        rcases AttrValue.asOutputType_eq_error hv with ⟨text, rfl, ht, rfl⟩ | ⟨hs, ht, rfl⟩
        · exact .unknown text hn ht
        · exact .otherKind v hn hs ht

/-- The node afterwards: of the extension operator set it stays, otherwise its output type is
replaced. -/
theorem node_resolveOutputType (n : Node) :
    (resolveOutputType n).node =
      if n.version = some "extension" then n else n.mapAttr outputType AttrValue.resolved := by
  cases hx : n.isExtension with
  | true => rw [if_pos (n.isExtension_iff.1 hx), resolveOutputType_extension hx]
  | false =>
    rw [if_neg (n.isExtension_eq_false_iff.1 hx)]
    cases hn : n.attr? outputType with
    | none =>
      rw [resolveOutputType_missing hx hn, Node.mapAttr_of_none _ hn]
      rfl
    | some v =>
      rw [Node.mapAttr_of_some _ hn]
      cases hv : v.asOutputType with
      | ok t =>
        rw [resolveOutputType_ok hx hn hv, AttrValue.resolved_of_ok hv]
        rfl
      | error fault =>
        rw [resolveOutputType_error hx hn hv, AttrValue.resolved_of_error hv,
          Node.withAttr_of_attr? hn]
        rfl

/-- Outside the extension operator set the output type is replaced. -/
theorem attr?_resolveOutputType {n : Node} (h : n.version ≠ some "extension") :
    (resolveOutputType n).node.attr? outputType =
      (n.attr? outputType).map AttrValue.resolved := by
  rw [node_resolveOutputType, if_neg h, Node.attr?_mapAttr, if_pos rfl]

/-- The label stays, whatever comes out. -/
@[simp] theorem toLabel_resolveOutputType (n : Node) :
    (resolveOutputType n).node.toLabel = n.toLabel := by
  rw [node_resolveOutputType]
  split
  · rfl
  · exact n.toLabel_mapAttr _ _

/-- Success: of the extension operator set, or with a type, or with the token of one. -/
theorem result_resolveOutputType_iff (n : Node) :
    (resolveOutputType n).result = .ok () ↔
      n.version = some "extension" ∨
      (∃ t, n.attr? "output_type" = some (.elementType t)) ∨
      ∃ t : ElementType, n.attr? "output_type" = some (.string t.token) := by
  rcases resolveOutputType_cases n with ⟨hx, h⟩ | ⟨hx, ⟨t, ht, h⟩ | ⟨t, ht, h⟩ | ⟨fault, hf, h⟩⟩
  · rw [h]
    exact iff_of_true rfl (Or.inl hx)
  · rw [h]
    exact iff_of_true rfl (Or.inr (Or.inl ⟨t, ht⟩))
  · rw [h]
    exact iff_of_true rfl (Or.inr (Or.inr ⟨t, ht⟩))
  · rw [h]
    refine iff_of_false (by simp [Outcome.fail]) ?_
    rintro (hx' | ⟨t, ht⟩ | ⟨t, ht⟩)
    · exact hx hx'
    · exact (hf.not_type t).1 ht
    · exact (hf.not_type t).2 ht

/-- A token outside the extension operator set is replaced by its type, and all else stays. -/
theorem retyped_resolveOutputType {n : Node} (hx : n.version ≠ some "extension") {t : ElementType}
    (ht : n.attr? outputType = some (.string t.token)) :
    n.Retyped (resolveOutputType n).node t := by
  rw [node_resolveOutputType, if_neg hx]
  exact Node.retyped_mapAttr ht

/-- A node changes exactly with a token, outside the extension operator set. -/
theorem node_resolveOutputType_ne_iff (n : Node) :
    (resolveOutputType n).node ≠ n ↔
      n.version ≠ some "extension" ∧
      ∃ t : ElementType, n.attr? "output_type" = some (.string t.token) := by
  constructor
  · intro hne
    rw [node_resolveOutputType] at hne
    split at hne
    · exact absurd rfl hne
    next hx =>
      refine ⟨hx, Classical.byContradiction fun hn => hne (Node.mapAttr_eq_self ?_)⟩
      intro v hv
      -- a value that is replaced by another one is a token
      refine Classical.byContradiction fun hr => ?_
      obtain ⟨t, rfl⟩ := v.resolved_ne_self_iff.1 hr
      exact hn ⟨t, hv⟩
  · rintro ⟨hx, t, ht⟩ heq
    have hset := (retyped_resolveOutputType hx ht).outputType
    -- the output type would be a text and a type at once
    rw [heq, ht] at hset
    simp at hset

/-- A failure leaves the node as it was, and has one message, which says what was refused. -/
theorem refusal_of_resolveOutputType {n : Node} {e : Failure}
    (he : (resolveOutputType n).result = .error e) :
    (resolveOutputType n).node = n ∧ ∃ message, e.messages = [message] ∧ n.Refusal message := by
  rcases resolveOutputType_cases n with ⟨hx, h⟩ | ⟨hx, ⟨t, ht, h⟩ | ⟨t, ht, h⟩ | ⟨fault, hf, h⟩⟩
  · simp [h] at he
  · simp [h, Outcome.done] at he
  · simp [h, Outcome.done] at he
  · rw [h] at he ⊢
    obtain rfl : Failure.ofFault fault = e := Except.error.inj he
    exact ⟨rfl, fault.message, rfl, hf⟩

/-- Only a node of the extension operator set is mentioned in the log. -/
theorem log_resolveOutputType (n : Node) :
    (resolveOutputType n).log =
      if n.version = some "extension" then
        [⟨.trace, n.text ++ " is an extension, keeping output_type as is"⟩]
      else [] := by
  rcases resolveOutputType_cases n with ⟨hx, h⟩ | ⟨hx, ⟨t, ht, h⟩ | ⟨t, ht, h⟩ | ⟨fault, hf, h⟩⟩
  · rw [h, if_pos hx]
  all_goals
    rw [h, if_neg hx]
    rfl

/-- **Output types are resolved exactly from tokens.** The extender succeeds on a node of the
extension operator set, with a type, or with the token of a type; it changes a node only in the
last case and outside that set, and then nothing but the output type, which becomes the one type of
the token. Where it fails, the node is as it was, and the one message says what was refused. -/
theorem resolves_exactly_tokens (n : Node) :
    ((resolveOutputType n).result = .ok () ↔
      n.version = some "extension" ∨
      (∃ t, n.attr? "output_type" = some (.elementType t)) ∨
      ∃ t : ElementType, n.attr? "output_type" = some (.string t.token)) ∧
    ((resolveOutputType n).node ≠ n ↔
      n.version ≠ some "extension" ∧
      ∃ t : ElementType, n.attr? "output_type" = some (.string t.token)) ∧
    (∀ t : ElementType, n.version ≠ some "extension" →
      n.attr? "output_type" = some (.string t.token) →
      n.Retyped (resolveOutputType n).node t ∧
      ∀ s : ElementType, n.attr? "output_type" = some (.string s.token) → s = t) ∧
    (∀ e, (resolveOutputType n).result = .error e →
      (resolveOutputType n).node = n ∧ ∃ message, e.messages = [message] ∧ n.Refusal message) ∧
    (resolveOutputType n).log =
      if n.version = some "extension" then
        [⟨.trace, n.text ++ " is an extension, keeping output_type as is"⟩]
      else [] := by
  refine ⟨result_resolveOutputType_iff n, node_resolveOutputType_ne_iff n, ?_, ?_,
    log_resolveOutputType n⟩
  · intro t hx ht
    refine ⟨retyped_resolveOutputType hx ht, ?_⟩
    intro s hs
    rw [ht] at hs
    exact (ElementType.token_injective (AttrValue.string.inj (Option.some.inj hs))).symm
  · intro e he
    exact refusal_of_resolveOutputType he

end Extender

end OperatorIR
