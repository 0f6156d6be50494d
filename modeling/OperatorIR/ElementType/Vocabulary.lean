import OperatorIR.ElementType.Basic

/-!
# The names of element types in files and options

Three vocabularies name the element types. A file that holds a network names them by lower-case
*destination tokens*; options of the user name them either by upper-case *precisions* or by the
names that frameworks use, where several names may mean one type. A name is known in a vocabulary
only as it is written there, letter by letter; an unknown one is an error, and never some default
type.

## Main definitions

* `OperatorIR.ElementType.token`, `precision` — the name of a type in the first two vocabularies.
* `OperatorIR.ElementType.userNames` — the names that options accept.
* `OperatorIR.ElementType.ofToken`, `parse`, `ofUserName`, `tokenOfPrecision` — the ways back.
* `OperatorIR.UnknownName` — a name that a vocabulary does not have.

## Main results

* `OperatorIR.ElementType.ofToken_eq_ok_iff` — tokens are read exactly as they are written.
* `OperatorIR.ElementType.tokenOfPrecision_eq_ok_iff` — so are precisions.
* `OperatorIR.ElementType.ofToken_eq_error_iff` — the error is for exactly the other texts.
-/

set_option autoImplicit false

namespace OperatorIR

/-- A name that its vocabulary does not have. -/
inductive UnknownName where
  /-- No destination token. -/
  | token (text : String)
  /-- Neither a precision nor a name for users. -/
  | dataType (text : String)
  deriving DecidableEq

namespace ElementType

/-! ## The vocabularies -/

/-- The destination token of a type. -/
def token : ElementType → String
  | bool => "boolean"
  | u1 => "u1"
  | u4 => "u4"
  | u8 => "u8"
  | u32 => "u32"
  | u64 => "u64"
  | i4 => "i4"
  | i8 => "i8"
  | i32 => "i32"
  | i64 => "i64"
  | f16 => "f16"
  | f32 => "f32"
  | f64 => "f64"

/-- The precision that names a type. -/
def precision : ElementType → String
  | bool => "BOOL"
  | u1 => "U1"
  | u4 => "U4"
  | u8 => "U8"
  | u32 => "U32"
  | u64 => "U64"
  | i4 => "I4"
  | i8 => "I8"
  | i32 => "I32"
  | i64 => "I64"
  | f16 => "FP16"
  | f32 => "FP32"
  | f64 => "FP64"

/-- The names that options accept, each with the type that it means. -/
def userNames : List (String × ElementType) :=
  [("float", f32), ("half", f16), ("FP32", f32), ("FP64", f64), ("FP16", f16), ("I32", i32),
    ("I64", i64), ("int8", i8), ("int32", i32), ("int64", i64), ("bool", bool), ("uint8", u8),
    ("uint32", u32), ("uint64", u64), ("U1", u1), ("int4", i4), ("uint4", u4), ("I4", i4),
    ("U4", u4)]

/-! ## Reading a name -/

/-- The type with the given destination token. -/
def ofToken (text : String) : Except UnknownName ElementType :=
  match all.find? fun t => t.token = text with
  | some t => .ok t
  | none => .error (.token text)

/-- A text is parsed as a type by the rules for destination tokens. -/
def parse (text : String) : Except UnknownName ElementType := ofToken text

/-- The type that a name of the user means. -/
def ofUserName (text : String) : Except UnknownName ElementType :=
  match userNames.find? fun entry => entry.1 = text with
  | some entry => .ok entry.2
  | none => .error (.dataType text)

/-- The destination token of the type with the given precision. -/
def tokenOfPrecision (text : String) : Except UnknownName String :=
  match all.find? fun t => t.precision = text with
  | some t => .ok t.token
  | none => .error (.dataType text)

/-! ## Unique names -/

/-- Two types with one token are the same. -/
theorem token_injective {s t : ElementType} (h : s.token = t.token) : s = t := by
  cases s <;> cases t <;> first | rfl | exact absurd h (by decide)

/-- Two types with one precision are the same. -/
theorem precision_injective {s t : ElementType} (h : s.precision = t.precision) : s = t := by
  cases s <;> cases t <;> first | rfl | exact absurd h (by decide)

/-- A search through all types by a name that no two of them share finds the one that has it. -/
private theorem find?_all_eq_some_iff {f : ElementType → String}
    (hf : ∀ s t : ElementType, f s = f t → s = t) (text : String) (t : ElementType) :
    (all.find? fun s => f s = text) = some t ↔ f t = text := by
  constructor
  · intro h
    simpa using List.find?_some h
  · intro h
    cases hs : all.find? fun s => f s = text with
    | none =>
      have := List.find?_eq_none.1 hs t (mem_all t)
      simp [h] at this
    | some s =>
      have hs' : f s = text := by simpa using List.find?_some hs
      rw [hf s t (hs'.trans h.symm)]

/-- A text is read as a type exactly when it is the token of that type. -/
theorem ofToken_eq_ok_iff (text : String) (t : ElementType) :
    ofToken text = .ok t ↔ t.token = text := by
  rw [← find?_all_eq_some_iff (fun _ _ => token_injective) text t, ofToken]
  cases all.find? fun s => s.token = text <;> simp

/-- A text is refused, and named, exactly when it is the token of no type. -/
theorem ofToken_eq_error_iff (text : String) (e : UnknownName) :
    ofToken text = .error e ↔ e = .token text ∧ ∀ t : ElementType, t.token ≠ text := by
  cases h : ofToken text with
  | ok t =>
    simp only [reduceCtorEq, false_iff, not_and]
    exact fun _ hn => hn t ((ofToken_eq_ok_iff text t).1 h)
  | error e' =>
    have hn : ∀ t : ElementType, t.token ≠ text := fun t ht => by
      simp [(ofToken_eq_ok_iff text t).2 ht] at h
    have he : e' = .token text := by
      unfold ofToken at h
      split at h
      · simp at h
      · simpa using h.symm
    simp only [Except.error.injEq]
    constructor
    · rintro rfl
      exact ⟨he, hn⟩
    · rintro ⟨rfl, -⟩
      exact he

/-- A precision is read as a token exactly when one type has both. -/
theorem tokenOfPrecision_eq_ok_iff (text token : String) :
    tokenOfPrecision text = .ok token ↔
      ∃ t : ElementType, t.precision = text ∧ t.token = token := by
  have hfind := find?_all_eq_some_iff (f := precision) (fun _ _ => precision_injective) text
  unfold tokenOfPrecision
  cases h : all.find? fun s => s.precision = text with
  | none =>
    simp only [reduceCtorEq, false_iff, not_exists, not_and]
    intro t ht
    simp [(hfind t).2 ht] at h
  | some s =>
    simp only [Except.ok.injEq]
    constructor
    · rintro rfl
      exact ⟨s, (hfind s).1 h, rfl⟩
    · rintro ⟨t, ht, rfl⟩
      rw [(hfind t).2 ht] at h
      rw [Option.some.inj h]

end ElementType

namespace UnknownName

/-- What is said about an unknown name: the name, and for a token the list of those that exist. -/
def message : UnknownName → String
  | token text =>
    "Destination type \"" ++ text ++ "\" is not supported (expected one of "
      ++ ", ".intercalate (ElementType.all.map ElementType.token) ++ ")"
  | dataType text => "Data type \"" ++ text ++ "\" is not supported"

end UnknownName

end OperatorIR
