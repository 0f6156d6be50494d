import OperatorIR.Node.Text
import OperatorIR.Proofs.Leaves
import OperatorIR.Proofs.Likeness

/-!
# Reading nodes

The outline of a value or of a node tells everything about it, and so does its compact text. Only
numbers in single precision are told up to their text in the general layout, which several of them
may share.

## Main definitions

* `OperatorIR.Single.SameText` — numbers with the same text in the general layout.

## Main results

* `OperatorIR.AttrValue.outline_eq_iff` — values with one outline are alike.
* `OperatorIR.AttrMap.outline_eq_iff` — so are maps.
* `OperatorIR.AttrValue.readable_outline`, `OperatorIR.Node.readable_outline` — outlines of values
  and of nodes can be read back.
* `OperatorIR.Node.compactText_tells_all` — nodes with one text have the same label and attributes.
-/

set_option autoImplicit false

namespace OperatorIR

open Text (Outline quoted)
open Text.Outline (Readable readable_quoted)

/-- The numbers have the same text in the general layout. -/
def Single.SameText (x y : Single) : Prop :=
  NumberLayout.general.write x = NumberLayout.general.write y

/-- Lists have one image exactly if their elements do, one by one. -/
theorem map_eq_map_iff_forall₂ {α β : Type} {f : α → β} {xs ys : List α} :
    xs.map f = ys.map f ↔ List.Forall₂ (fun x y => f x = f y) xs ys := by
  rw [← List.forall₂_eq_eq_eq, List.forall₂_map_left_iff, List.forall₂_map_right_iff]

namespace AttrValue

variable {a b : AttrValue}

/-! ## Outlines that can be read -/

/-- What is wrapped in a word can be read when its content can. -/
theorem readable_wrapped {name : String} {content : Outline} (hn : Text.IsWord name)
    (hc : Readable content) : Readable (wrapped name content) := by
  refine .group hn fun part hpart => ?_
  rw [List.mem_singleton.1 hpart]
  exact hc

/-- **The outline of a value** can be read back. -/
theorem readable_outline (v : AttrValue) : Readable v.outline := by
  induction v using AttrValue.induction with
  | string text => exact readable_wrapped rfl (Leaf.string text).readable
  | int n => exact readable_wrapped rfl (Leaf.number _ (isNumeral_intText n)).readable
  | ints ns =>
    refine readable_wrapped rfl (.group rfl fun part hpart => ?_)
    obtain ⟨n, -, rfl⟩ := List.mem_map.1 hpart
    exact (Leaf.number _ (isNumeral_intText n)).readable
  | float x =>
    exact readable_wrapped rfl (Leaf.number _ (NumberLayout.isNumeral_write_general x)).readable
  | bool b => exact readable_wrapped rfl (Leaf.bool b).readable
  | elementType t => exact readable_wrapped rfl (Leaf.elementType t).readable
  | list items ih =>
    refine readable_wrapped rfl (.group rfl fun part hpart => ?_)
    rw [outlineAll_eq_map] at hpart
    obtain ⟨v, hv, rfl⟩ := List.mem_map.1 hpart
    exact ih v hv

/-! ## What outlines tell -/

/-- A wrapped outline tells the name of the kind and the content. -/
theorem wrapped_inj {m n : String} {c d : Outline} : wrapped m c = wrapped n d ↔ m = n ∧ c = d := by
  simp [wrapped]

/-- Values whose kinds have different names have different outlines. -/
theorem wrapped_ne {m n : String} (h : m ≠ n) (c d : Outline) : wrapped m c ≠ wrapped n d :=
  fun heq => h (wrapped_inj.1 heq).1

/-- A wrapped leaf tells its text. -/
theorem leaf_eq_of_wrapped_eq {m n s t : String} (h : wrapped m (.leaf s) = wrapped n (.leaf t)) :
    s = t :=
  Outline.leaf.inj (wrapped_inj.1 h).2

/-- A wrapped list tells its items. -/
theorem items_eq_of_wrapped_eq {m n : String} {xs ys : List Outline}
    (h : wrapped m (sequence xs) = wrapped n (sequence ys)) : xs = ys :=
  (Outline.group.inj (wrapped_inj.1 h).2).2.2

/-- Lists with the same outlines of items are alike if each item with the outline of another value
is like it. -/
theorem alike_list_of_outlineAll_eq {same : Single → Single → Prop} {xs ys : List AttrValue}
    (hitems : ∀ v ∈ xs, ∀ w : AttrValue, v.outline = w.outline → Alike same v w)
    (h : outlineAll xs = outlineAll ys) : Alike same (.list xs) (.list ys) := by
  rw [outlineAll_eq_map, outlineAll_eq_map, map_eq_map_iff_forall₂] at h
  exact alike_list_of_forall₂ hitems h

/-- Values with one outline are alike.

**Proof sketch.** Induction on the first value. The name of the kind leaves one kind for the second
value, and the content of that kind tells the rest. -/
theorem alike_of_outline_eq (h : a.outline = b.outline) : Alike Single.SameText a b := by
  induction a using AttrValue.induction generalizing b with
  | string s =>
    cases b with
    | string t =>
      rw [Text.quoted_inj.1 (leaf_eq_of_wrapped_eq h)]
      exact .string t
    -- the second value is of another kind, and the names of the kinds differ
    | _ => exact absurd h (wrapped_ne (by decide) _ _)
  | int m =>
    cases b with
    | int n =>
      rw [intText_inj.1 (leaf_eq_of_wrapped_eq h)]
      exact .int n
    | _ => exact absurd h (wrapped_ne (by decide) _ _)
  | ints ms =>
    cases b with
    | ints ns =>
      have hleaf : Function.Injective fun n => Outline.leaf (intText n) :=
        fun m n hmn => intText_inj.1 (Outline.leaf.inj hmn)
      rw [hleaf.list_map (items_eq_of_wrapped_eq h)]
      exact .ints ns
    | _ => exact absurd h (wrapped_ne (by decide) _ _)
  | float x =>
    cases b with
    | float y => exact .float (leaf_eq_of_wrapped_eq h)
    | _ => exact absurd h (wrapped_ne (by decide) _ _)
  | bool p =>
    cases b with
    | bool q =>
      rw [boolText_inj.1 (leaf_eq_of_wrapped_eq h)]
      exact .bool q
    | _ => exact absurd h (wrapped_ne (by decide) _ _)
  | elementType s =>
    cases b with
    | elementType t =>
      rw [ElementType.name_injective (leaf_eq_of_wrapped_eq h)]
      exact .elementType t
    | _ => exact absurd h (wrapped_ne (by decide) _ _)
  | list xs ih =>
    cases b with
    | list ys =>
      exact alike_list_of_outlineAll_eq (fun v hv _ hvw => ih v hv hvw) (items_eq_of_wrapped_eq h)
    | _ => exact absurd h (wrapped_ne (by decide) _ _)

/-- Values that are alike have one outline. -/
theorem Alike.outline_eq (h : Alike Single.SameText a b) : a.outline = b.outline := by
  induction h with
  | float h => exact congrArg (fun text => wrapped "Float" (.leaf text)) h
  | cons h hs ih ihs =>
    have hrest := items_eq_of_wrapped_eq ihs
    rw [outline, outline, outlineAll, outlineAll, ih, hrest]
  | _ => rfl

/-- **Values have one outline** exactly if they are alike. -/
theorem outline_eq_iff : a.outline = b.outline ↔ Alike Single.SameText a b :=
  ⟨alike_of_outline_eq, Alike.outline_eq⟩

/-- Values have one compact text exactly if they are alike. -/
theorem compactText_eq_iff : a.compactText = b.compactText ↔ Alike Single.SameText a b := by
  rw [compactText, compactText, Outline.compact_inj a.readable_outline b.readable_outline,
    outline_eq_iff]

end AttrValue

/-! ## Maps and nodes -/

/-- The outline of a text that may be missing tells the text. -/
theorem optionalText_inj {s t : Option String} : optionalText s = optionalText t ↔ s = t := by
  cases s <;> cases t <;> simp [optionalText, Text.quoted_inj]

/-- The outline of a text that may be missing can be read back. -/
theorem readable_optionalText (s : Option String) : Readable (optionalText s) := by
  cases s with
  | none => exact .leaf (Or.inl rfl) (by decide)
  | some text => exact AttrValue.readable_wrapped rfl (readable_quoted text)

namespace AttrMap

/-- The outline of attributes can be read back. -/
theorem readable_outline (m : AttrMap) : Readable m.outline := by
  refine .group rfl fun part hpart => ?_
  obtain ⟨entry, -, rfl⟩ := List.mem_map.1 hpart
  exact .labelled (Or.inr ⟨entry.1, rfl⟩) entry.2.readable_outline

/-- **Maps have one outline** exactly if they are alike. -/
theorem outline_eq_iff {a b : AttrMap} : a.outline = b.outline ↔ a.Alike Single.SameText b := by
  have hentry : ∀ x y : String × AttrValue,
      (Outline.labelled (quoted x.1) x.2.outline = .labelled (quoted y.1) y.2.outline) =
        (x.1 = y.1 ∧ AttrValue.Alike Single.SameText x.2 y.2) := by
    intro x y
    rw [Outline.labelled.injEq, Text.quoted_inj, AttrValue.outline_eq_iff]
  rw [outline, outline, Outline.group.injEq, eq_self_iff_true, eq_self_iff_true, true_and, true_and,
    map_eq_map_iff_forall₂, alike_iff_forall₂, Keyed.Related]
  simp only [hentry]

end AttrMap

namespace Node

variable {n m : Node}

/-- The outline of a node can be read back. -/
theorem readable_outline (n : Node) : Readable n.outline := by
  have hlabel : ∀ {label : String} {part : Outline}, Text.IsWord label → Readable part →
      Readable (.labelled label part) := fun hl hp => .labelled (Or.inl hl) hp
  refine .group rfl ?_
  simp only [List.forall_mem_cons]
  exact ⟨hlabel rfl (readable_quoted n.name), hlabel rfl (readable_quoted n.op),
    hlabel rfl (readable_optionalText n.version), hlabel rfl n.attrs.readable_outline, nofun⟩

/-- The outline of a node tells its label and its attributes. -/
theorem outline_eq_iff : n.outline = m.outline ↔
    n.name = m.name ∧ n.op = m.op ∧ n.version = m.version ∧
      n.attrs.Alike Single.SameText m.attrs := by
  simp [outline, Text.quoted_inj, optionalText_inj, AttrMap.outline_eq_iff]

/-- Nodes have one compact text exactly if they have the same label and their attributes are
alike. -/
theorem compactText_eq_iff : n.compactText = m.compactText ↔
    n.name = m.name ∧ n.op = m.op ∧ n.version = m.version ∧
      n.attrs.Alike Single.SameText m.attrs := by
  rw [compactText, compactText, Outline.compact_inj n.readable_outline m.readable_outline,
    outline_eq_iff]

/-- **The compact text of nodes and of values** tells everything up to the texts of numbers in
single precision. So it tells the two forms of lists apart, numbers of the two kinds even when they
are the same number, texts from truth values, and no version from any version. -/
theorem compactText_tells_all :
    (∀ n m : Node, n.compactText = m.compactText ↔
      n.name = m.name ∧ n.op = m.op ∧ n.version = m.version ∧
        n.attrs.Alike Single.SameText m.attrs) ∧
    (∀ a b : AttrValue, a.compactText = b.compactText ↔ a.Alike Single.SameText b) ∧
    (∀ ns : List Int64,
      (AttrValue.ints ns).compactText ≠ (AttrValue.list (ns.map .int)).compactText) ∧
    (∀ (i : Int64) (x : Single), (AttrValue.int i).compactText ≠ (AttrValue.float x).compactText) ∧
    (∀ (s : String) (b : Bool),
      (AttrValue.string s).compactText ≠ (AttrValue.bool b).compactText) ∧
    ∀ n m : Node, n.version = none → ∀ v, m.version = some v → n.compactText ≠ m.compactText := by
  refine ⟨fun _ _ => compactText_eq_iff, fun _ _ => AttrValue.compactText_eq_iff, ?_, ?_, ?_, ?_⟩
  · intro ns h
    cases AttrValue.compactText_eq_iff.1 h
  · intro i x h
    cases AttrValue.compactText_eq_iff.1 h
  · intro s b h
    cases AttrValue.compactText_eq_iff.1 h
  · intro n m hn v hm h
    have hversion := (compactText_eq_iff.1 h).2.2.1
    rw [hn, hm] at hversion
    exact absurd hversion (Option.some_ne_none v).symm

end Node

end OperatorIR
