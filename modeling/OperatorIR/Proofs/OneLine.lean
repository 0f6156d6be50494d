import OperatorIR.Node.Text
import OperatorIR.Proofs.Likeness
import OperatorIR.Proofs.Numeral
import OperatorIR.Proofs.OutlineReading

/-!
# Texts on one line

A text inside quotes has no line breaks, whatever was quoted, and neither has a numeral, the word of
a truth value or the name of a type. So values and nodes are written on one line, except where an
outline is spread out on purpose.

## Main definitions

* `OperatorIR.Text.OneLine` — a text without line breaks.
* `OperatorIR.Text.Outline.Snug` — an outline of such texts, without blanks inside its brackets.

## Main results

* `OperatorIR.Text.Outline.Snug.oneLine_compact` — a snug outline is compact on one line.
* `OperatorIR.AttrValue.snug_outline` — the outline of every value is snug.
* `OperatorIR.AttrValue.oneLine_display`, `OperatorIR.Node.oneLine_compactText` — values and nodes
  are written on one line.
-/

set_option autoImplicit false

namespace OperatorIR

namespace Text

/-! ## Texts -/

/-- The text has no line breaks. -/
def OneLine (text : String) : Prop := '\n' ∉ text.toList

/-- It can be decided whether a text has line breaks. -/
instance (text : String) : Decidable (OneLine text) :=
  inferInstanceAs (Decidable ('\n' ∉ text.toList))

/-- A text is on one line exactly if both parts of it are. -/
@[simp] theorem oneLine_append {s t : String} : OneLine (s ++ t) ↔ OneLine s ∧ OneLine t := by
  simp [OneLine, not_or]

/-- Texts on one line make one line, if what stands between them does not break it. -/
theorem oneLine_intercalate {sep : String} (hsep : OneLine sep) {texts : List String}
    (h : ∀ text ∈ texts, OneLine text) : OneLine (sep.intercalate texts) := by
  cases texts with
  | nil => exact List.not_mem_nil
  | cons text texts =>
    unfold OneLine
    rw [toList_intercalate_cons, List.mem_append, List.mem_flatMap]
    rintro (hfirst | ⟨other, hother, hmem⟩)
    · exact h text List.mem_cons_self hfirst
    · rcases List.mem_append.1 hmem with hmem | hmem
      · exact hsep hmem
      · exact h other (List.mem_cons_of_mem _ hother) hmem

/-- Quoted text is on one line, whatever was quoted. -/
theorem oneLine_quoted (s : String) : OneLine (quoted s) := newline_not_mem_quoted s

/-! ## Outlines -/

namespace Bracket

/-- The text that opens a group is on one line. -/
theorem oneLine_opening (b : Bracket) : OneLine b.opening := by cases b <;> decide

/-- The text that closes it is. -/
theorem oneLine_closing (b : Bracket) : OneLine b.closing := by cases b <;> decide

/-- What stands inside next to the brackets is. -/
theorem oneLine_padding (b : Bracket) : OneLine b.padding := by cases b <;> decide

end Bracket

namespace Outline

/-- The texts, labels and names in the outline are on one line each, and no group keeps blanks
inside its brackets. -/
inductive Snug : Outline → Prop
  | leaf {text : String} (h : OneLine text) : Snug (.leaf text)
  | labelled {label : String} {part : Outline} (h : OneLine label) (hp : Snug part) :
      Snug (.labelled label part)
  | group {name : String} {b : Bracket} {parts : List Outline} (h : OneLine name)
      (hb : b ≠ .record) (hp : ∀ part ∈ parts, Snug part) : Snug (.group name b parts)

/-- A group is on one line if its name and its parts are. -/
theorem oneLine_compact_group {name : String} (hname : OneLine name) (b : Bracket)
    {parts : List Outline} (hparts : ∀ part ∈ parts, OneLine part.compact) :
    OneLine (Outline.group name b parts).compact := by
  cases parts with
  | nil =>
    rw [compact]
    simp only [oneLine_append]
    exact ⟨⟨hname, b.oneLine_opening⟩, b.oneLine_closing⟩
  | cons part parts =>
    have hinside : OneLine (", ".intercalate (part.compact :: compactAll parts)) := by
      refine oneLine_intercalate (by decide) fun text htext => ?_
      rw [compactAll_eq_map, ← List.map_cons] at htext
      obtain ⟨other, hother, rfl⟩ := List.mem_map.1 htext
      exact hparts other hother
    rw [compact]
    simp only [oneLine_append]
    exact ⟨⟨⟨⟨⟨hname, b.oneLine_opening⟩, b.oneLine_padding⟩, hinside⟩, b.oneLine_padding⟩,
      b.oneLine_closing⟩

/-- **A snug outline is compact on one line.** -/
theorem Snug.oneLine_compact {o : Outline} (h : Snug o) : OneLine o.compact := by
  induction h with
  | leaf h => exact h
  | labelled h hp ih =>
    rw [compact]
    simp only [oneLine_append]
    exact ⟨⟨h, by decide⟩, ih⟩
  | group h hb hp ih => exact oneLine_compact_group h _ ih

end Outline

end Text

open Text (OneLine Outline oneLine_quoted quoted)
open Text.Outline (Snug)

/-! ## Words -/

/-- Numerals are on one line. -/
theorem IsNumeral.oneLine {text : String} (h : IsNumeral text) : OneLine text := by
  intro hmem
  exact absurd (List.all_eq_true.1 h.chars '\n' hmem) (by decide)

/-- Truth values are on one line. -/
theorem oneLine_boolText (b : Bool) : OneLine (boolText b) := by cases b <;> decide

/-- The names of types are on one line. -/
theorem ElementType.oneLine_name (t : ElementType) : OneLine t.name := by cases t <;> decide

namespace AttrValue

/-! ## Values -/

/-- The name of a kind is on one line. -/
theorem oneLine_kind (v : AttrValue) : OneLine v.kind := by
  unfold kind
  split <;> decide

/-- Items between square brackets are on one line if each of them is. -/
theorem oneLine_bracketed {items : List String} (h : ∀ item ∈ items, OneLine item) :
    OneLine (bracketed items) := by
  rw [bracketed]
  simp only [Text.oneLine_append]
  exact ⟨⟨by decide, Text.oneLine_intercalate (by decide) h⟩, by decide⟩

/-- **Displayed values** are on one line, at any depth. -/
theorem oneLine_display (v : AttrValue) : OneLine v.display := by
  induction v using AttrValue.induction with
  | string text => exact oneLine_quoted text
  | int n => exact (isNumeral_intText n).oneLine
  | ints ns =>
    refine oneLine_bracketed fun item hitem => ?_
    obtain ⟨n, -, rfl⟩ := List.mem_map.1 hitem
    exact (isNumeral_intText n).oneLine
  | float x => exact (NumberLayout.isNumeral_write_plain x).oneLine
  | bool b => exact oneLine_boolText b
  | elementType t => exact t.oneLine_name
  | list items ih =>
    refine oneLine_bracketed fun item hitem => ?_
    rw [displayAll_eq_map] at hitem
    obtain ⟨v, hv, rfl⟩ := List.mem_map.1 hitem
    exact ih v hv

/-- What is wrapped in a name is snug when the content is. -/
theorem snug_wrapped {name : String} {content : Outline} (hn : OneLine name)
    (hc : Snug content) : Snug (wrapped name content) := by
  refine .group hn (by decide) fun part hpart => ?_
  rw [List.mem_singleton.1 hpart]
  exact hc

/-- **The outline of a value** is snug. -/
theorem snug_outline (v : AttrValue) : Snug v.outline := by
  induction v using AttrValue.induction with
  | string text => exact snug_wrapped (by decide) (.leaf (oneLine_quoted text))
  | int n => exact snug_wrapped (by decide) (.leaf (isNumeral_intText n).oneLine)
  | ints ns =>
    refine snug_wrapped (by decide) (.group (by decide) (by decide) fun part hpart => ?_)
    obtain ⟨n, -, rfl⟩ := List.mem_map.1 hpart
    exact .leaf (isNumeral_intText n).oneLine
  | float x =>
    exact snug_wrapped (by decide) (.leaf (NumberLayout.isNumeral_write_general x).oneLine)
  | bool b => exact snug_wrapped (by decide) (.leaf (oneLine_boolText b))
  | elementType t => exact snug_wrapped (by decide) (.leaf t.oneLine_name)
  | list items ih =>
    refine snug_wrapped (by decide) (.group (by decide) (by decide) fun part hpart => ?_)
    rw [outlineAll_eq_map] at hpart
    obtain ⟨v, hv, rfl⟩ := List.mem_map.1 hpart
    exact ih v hv

/-- The compact text of a value is on one line. -/
theorem oneLine_compactText (v : AttrValue) : OneLine v.compactText :=
  v.snug_outline.oneLine_compact

end AttrValue

/-! ## Nodes -/

/-- The outline of a text that may be missing is snug. -/
theorem snug_optionalText (s : Option String) : Snug (optionalText s) := by
  cases s with
  | none => exact .leaf (by decide)
  | some text => exact AttrValue.snug_wrapped (by decide) (.leaf (oneLine_quoted text))

/-- The outline of attributes is snug. -/
theorem AttrMap.snug_outline (m : AttrMap) : Snug m.outline := by
  refine .group (by decide) (by decide) fun part hpart => ?_
  obtain ⟨entry, -, rfl⟩ := List.mem_map.1 hpart
  exact .labelled (oneLine_quoted entry.1) entry.2.snug_outline

namespace Node

/-- The outline of a node is a record of snug parts. -/
theorem outline_eq_group (n : Node) : ∃ part parts,
    n.outline = .group "Node" .record (part :: parts) ∧ ∀ p ∈ part :: parts, Snug p := by
  refine ⟨_, _, rfl, ?_⟩
  simp only [List.forall_mem_cons]
  exact ⟨.labelled (by decide) (.leaf (oneLine_quoted n.name)),
    .labelled (by decide) (.leaf (oneLine_quoted n.op)),
    .labelled (by decide) (snug_optionalText n.version),
    .labelled (by decide) n.attrs.snug_outline, nofun⟩

/-- **The compact text of a node** is on one line. -/
theorem oneLine_compactText (n : Node) : OneLine n.compactText := by
  obtain ⟨part, parts, ho, hparts⟩ := n.outline_eq_group
  rw [compactText, ho]
  exact Text.Outline.oneLine_compact_group (by decide) .record
    fun p hp => (hparts p hp).oneLine_compact

end Node

end OperatorIR
