import OperatorIR.Proofs.Dispatch
import OperatorIR.Proofs.Resolution

/-!
# How the vocabularies fit together

A type has a token, a precision, and names that users write. Each vocabulary is a table of its own;
read together they never name two types by one text, and no text is a token and a name of another
vocabulary at once. So a precision given by the user leads, by way of the token that is written to a
node, to the type of that precision.

## Main definitions

* `OperatorIR.UnknownName.text` — the text that was not known.

## Main results

* `OperatorIR.ElementType.ofUserName_eq_ok_iff` — user names are read as the table has them.
* `OperatorIR.ElementType.ofToken_of_precision` — the vocabularies agree on a precision.
* `OperatorIR.UnknownName.text_in_message` — a refused text stands in the message.
* `OperatorIR.Reader.extend_standard_written` — the standard reader on a token that was written.
* `OperatorIR.ElementType.vocabularies_fit` — all of this for every text and node.
-/

set_option autoImplicit false

namespace OperatorIR

/-! ## User names -/

namespace ElementType

/-- No name stands twice among those for users. -/
theorem nodup_userNames : (userNames.map Prod.fst).Nodup := by decide

/-- A text is read as a type exactly when the table of user names has the two together. -/
theorem ofUserName_eq_ok_iff (text : String) (t : ElementType) :
    ofUserName text = .ok t ↔ (text, t) ∈ userNames := by
  unfold ofUserName
  cases h : userNames.find? fun entry => entry.1 = text with
  | none =>
    have hn : (text, t) ∉ userNames := fun hmem => by
      simpa using List.find?_eq_none.1 h (text, t) hmem
    simp [hn]
  | some entry =>
    obtain ⟨name, u⟩ := entry
    have hmem := List.mem_of_find?_eq_some h
    obtain rfl : name = text := by simpa using List.find?_some h
    simp only [Except.ok.injEq]
    constructor
    · rintro rfl
      exact hmem
    · intro ht
      exact congrArg Prod.snd (List.inj_on_of_nodup_map nodup_userNames hmem ht rfl)

/-! ## Two vocabularies at a time -/

/-- What a precision leads to is the token of its one type. -/
theorem tokenOfPrecision_eq_ok_iff_unique (text token : String) :
    tokenOfPrecision text = .ok token ↔
      ∃ t : ElementType, t.precision = text ∧ t.token = token ∧
        ∀ u : ElementType, u.precision = text → u = t := by
  rw [tokenOfPrecision_eq_ok_iff]
  constructor
  · rintro ⟨t, ht, htoken⟩
    exact ⟨t, ht, htoken, fun u hu => precision_injective (hu.trans ht.symm)⟩
  · rintro ⟨t, ht, htoken, -⟩
    exact ⟨t, ht, htoken⟩

/-- A user name that is a precision means the type of that precision. -/
theorem eq_of_precision_mem_userNames {t u : ElementType} (h : (t.precision, u) ∈ userNames) :
    u = t := by
  have htable : ∀ t ∈ all, ∀ entry ∈ userNames, entry.1 = t.precision → entry.2 = t := by decide
  exact htable t (mem_all t) (t.precision, u) h rfl

/-- No token is a precision. -/
theorem token_ne_precision (t u : ElementType) : t.token ≠ u.precision := by
  have htable : ∀ t ∈ all, ∀ u ∈ all, token t ≠ precision u := by decide
  exact htable t (mem_all t) u (mem_all u)

/-- No token is a user name. -/
theorem token_not_mem_userNames (t u : ElementType) : (t.token, u) ∉ userNames := by
  have htable : ∀ t ∈ all, ∀ entry ∈ userNames, entry.1 ≠ token t := by decide
  exact fun h => htable t (mem_all t) (t.token, u) h rfl

/-- **The vocabularies agree on a precision**: a user name that is one means the type of its
token. -/
theorem ofToken_of_precision {text token : String} {u : ElementType}
    (hp : tokenOfPrecision text = .ok token) (hu : ofUserName text = .ok u) :
    ofToken token = .ok u := by
  obtain ⟨t, rfl, rfl⟩ := (tokenOfPrecision_eq_ok_iff text token).1 hp
  obtain rfl : u = t := eq_of_precision_mem_userNames ((ofUserName_eq_ok_iff _ u).1 hu)
  exact (ofToken_eq_ok_iff _ u).2 rfl

/-- A token is refused as a precision and as a user name. -/
theorem refused_of_ofToken {text : String} {t : ElementType} (h : ofToken text = .ok t) :
    (∀ token, tokenOfPrecision text ≠ .ok token) ∧ ∀ u, ofUserName text ≠ .ok u := by
  obtain rfl := (ofToken_eq_ok_iff text t).1 h
  refine ⟨?_, ?_⟩
  · intro token hp
    obtain ⟨u, hu, -⟩ := (tokenOfPrecision_eq_ok_iff _ token).1 hp
    exact token_ne_precision t u hu.symm
  · intro u hu
    exact token_not_mem_userNames t u ((ofUserName_eq_ok_iff _ u).1 hu)

end ElementType

/-! ## Refused texts -/

namespace UnknownName

/-- The text that was not known. -/
def text : UnknownName → String
  | token text => text
  | dataType text => text

/-- A refused text stands in the message as it is. -/
theorem text_in_message (e : UnknownName) :
    ∃ before behind, e.message = before ++ e.text ++ behind := by
  cases e with
  | token text =>
    refine ⟨"Destination type \"", "\" is not supported (expected one of "
      ++ (", ".intercalate (ElementType.all.map ElementType.token) ++ ")"), ?_⟩
    calc (token text).message
      _ = "Destination type \"" ++ text ++ "\" is not supported (expected one of "
          ++ ", ".intercalate (ElementType.all.map ElementType.token) ++ ")" := rfl
      _ = _ := by rw [String.append_assoc, String.append_assoc, UnknownName.text]
  | dataType text => exact ⟨"Data type \"", "\" is not supported", rfl⟩

end UnknownName

namespace ElementType

/-- What is refused as a user name is that text. -/
theorem text_of_ofUserName_eq_error {text : String} {e : UnknownName}
    (h : ofUserName text = .error e) : e.text = text := by
  unfold ofUserName at h
  split at h
  · simp at h
  · rw [← Except.error.inj h, UnknownName.text]

/-- What is refused as a precision is that text. -/
theorem text_of_tokenOfPrecision_eq_error {text : String} {e : UnknownName}
    (h : tokenOfPrecision text = .error e) : e.text = text := by
  unfold tokenOfPrecision at h
  split at h
  · simp at h
  · rw [← Except.error.inj h, UnknownName.text]

/-- What is refused as a token is that text. -/
theorem text_of_ofToken_eq_error {text : String} {e : UnknownName}
    (h : ofToken text = .error e) : e.text = text := by
  obtain ⟨rfl, -⟩ := (ofToken_eq_error_iff text e).1 h
  rfl

end ElementType

/-! ## From a precision to the type of a node -/

/-- The standard reader replaces the token of a type by the type, and all else stays. -/
theorem Reader.extend_standard_of_token {n : Node} (hop : n.op = "Bucketize")
    (hx : n.version ≠ some "extension") {t : ElementType}
    (ht : n.attr? outputType = some (.string t.token)) :
    (standard.extend n).result = .ok () ∧ n.Retyped (standard.extend n).node t := by
  have hf : standard.extenderFor n.op = some Extender.resolveOutputType := by
    rw [extenderFor_standard, if_pos hop]
  have hok := (Extender.result_resolveOutputType_iff n).2 (Or.inr (Or.inr ⟨t, ht⟩))
  refine ⟨?_, ?_⟩
  · rw [extend_of_some hf, Outcome.result_after]
    exact (Outcome.result_within_iff _ _).2 hok
  · rw [node_extend_standard, if_pos hop]
    exact Extender.retyped_resolveOutputType hx ht

/-- A token that is written to a node becomes its type, and all else stays as it was before that. -/
theorem Reader.extend_standard_written {n : Node} (hop : n.op = "Bucketize")
    (hx : n.version ≠ some "extension") (t : ElementType) :
    (standard.extend (n.withAttr outputType (.string t.token))).result = .ok () ∧
      (standard.extend (n.withAttr outputType (.string t.token))).node.toLabel = n.toLabel ∧
      ∀ k, (standard.extend (n.withAttr outputType (.string t.token))).node.attr? k =
        if k = outputType then some (.elementType t) else n.attr? k := by
  have hwritten : (n.withAttr outputType (.string t.token)).attr? outputType =
      some (.string t.token) := by
    rw [Node.attr?_withAttr]
    exact if_pos rfl
  obtain ⟨hresult, hnode⟩ := extend_standard_of_token (n := n.withAttr _ _) hop hx hwritten
  refine ⟨hresult, hnode.label, fun k => ?_⟩
  by_cases hk : k = outputType
  · rw [if_pos hk, hk]
    exact hnode.outputType
  · rw [hnode.others k hk, Node.attr?_withAttr, if_neg hk, if_neg hk]

namespace ElementType

/-- **The vocabularies fit together.** A text is read as a token, by either way, exactly when it is
one, and a precision leads to the token of its one type. The three vocabularies do not contradict
each other, no token is a name of another vocabulary, and what is refused stands in the message.
So a precision whose token is written to a node has the standard reader give the node the type of
that precision, which is what it means as a user name if it is one; all else about the node stays
as it was. -/
theorem vocabularies_fit (s : String) :
    (∀ t, ofToken s = .ok t ↔ t.token = s) ∧
    (∀ t, parse s = .ok t ↔ t.token = s) ∧
    (∀ token, tokenOfPrecision s = .ok token ↔
      ∃ t : ElementType, t.precision = s ∧ t.token = token ∧
        ∀ u : ElementType, u.precision = s → u = t) ∧
    (∀ token t, tokenOfPrecision s = .ok token → ofUserName s = .ok t → ofToken token = .ok t) ∧
    (∀ t, ofToken s = .ok t →
      (∀ token, tokenOfPrecision s ≠ .ok token) ∧ ∀ u, ofUserName s ≠ .ok u) ∧
    (∀ e, ofToken s = .error e ∨ parse s = .error e ∨ tokenOfPrecision s = .error e ∨
      ofUserName s = .error e → ∃ before behind, e.message = before ++ s ++ behind) ∧
    ∀ n : Node, n.op = "Bucketize" → n.version ≠ some "extension" →
      ∀ token, tokenOfPrecision s = .ok token →
        (Reader.standard.extend (n.setAttr "output_type" (.string token)).1).result = .ok () ∧
        ∃ t : ElementType, t.precision = s ∧ (∀ u : ElementType, u.precision = s → u = t) ∧
          (∀ u, ofUserName s = .ok u → u = t) ∧
          (Reader.standard.extend (n.setAttr "output_type" (.string token)).1).node.attr?
            "output_type" = some (.elementType t) ∧
          (Reader.standard.extend (n.setAttr "output_type" (.string token)).1).node.toLabel =
            n.toLabel ∧
          ∀ k, k ≠ "output_type" →
            (Reader.standard.extend (n.setAttr "output_type" (.string token)).1).node.attr? k =
              n.attr? k := by
  refine ⟨ofToken_eq_ok_iff s, ofToken_eq_ok_iff s, tokenOfPrecision_eq_ok_iff_unique s,
    fun _ _ => ofToken_of_precision, fun _ => refused_of_ofToken, ?_, ?_⟩
  · intro e he
    have htext : e.text = s := by
      rcases he with h | h | h | h
      · exact text_of_ofToken_eq_error h
      · exact text_of_ofToken_eq_error h
      · exact text_of_tokenOfPrecision_eq_error h
      · exact text_of_ofUserName_eq_error h
    exact htext ▸ e.text_in_message
  · intro n hop hx token hp
    obtain ⟨t, ht, rfl, hunique⟩ := (tokenOfPrecision_eq_ok_iff_unique s token).1 hp
    obtain ⟨hresult, hlabel, hattr⟩ := Reader.extend_standard_written hop hx t
    refine ⟨hresult, t, ht, hunique, ?_, ?_, hlabel, ?_⟩
    · intro u hu
      exact token_injective ((ofToken_eq_ok_iff _ u).1 (ofToken_of_precision hp hu))
    · exact (hattr _).trans (if_pos rfl)
    · intro k hk
      exact (hattr k).trans (if_neg hk)

end ElementType

end OperatorIR
