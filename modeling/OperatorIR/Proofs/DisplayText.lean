import OperatorIR.Proofs.Leaves
import OperatorIR.Proofs.Likeness

/-!
# Reading displayed values

The terse text of a value can be read back as a tree: lists between square brackets, and leaves.
It does not tell a list of integers from a list of values that are integers, nor an integer from a
number in single precision with the same numeral. Everything else it tells, at any depth and
whatever the texts in the value hold.

## Main definitions

* `OperatorIR.Reading` — the trees.
* `OperatorIR.AttrValue.reading` — the tree of a value.
* `OperatorIR.AttrValue.itemized` — the value with every list given as a list of values.

## Main results

* `OperatorIR.AttrValue.display_eq_compact` — the terse text is that of the tree.
* `OperatorIR.Reading.outline_injective`, `readable_outline` — the tree is read back from it.
* `OperatorIR.AttrValue.value_reading` — without numbers in single precision, so is the value.
* `OperatorIR.AttrValue.display_tells_reading` — values of one text have one tree.
-/

set_option autoImplicit false

namespace OperatorIR

open Text (Outline)
open Text.Outline (Readable)

/-! ## Trees -/

/-- What the terse text of a value tells: leaves, and lists of trees. -/
inductive Reading where
  | leaf (l : Leaf)
  | list (items : List Reading)

namespace Reading

mutual

/-- The outline of a tree: lists have no name. -/
def outline : Reading → Outline
  | leaf l => .leaf l.text
  | list items => AttrValue.sequence (outlineAll items)

/-- The outlines of trees. -/
def outlineAll : List Reading → List Outline
  | [] => []
  | item :: items => outline item :: outlineAll items

end

/-- The outlines of trees are their outlines one by one. -/
theorem outlineAll_eq_map (rs : List Reading) : outlineAll rs = rs.map outline := by
  induction rs with
  | nil => rfl
  | cons r rs ih => rw [outlineAll, ih, List.map_cons]

mutual

/-- The outline of a tree can be read back. -/
theorem readable_outline : ∀ r : Reading, Readable r.outline
  | leaf l => l.readable
  | list items => .group rfl (readable_outlineAll items)

/-- So can the outlines of trees. -/
theorem readable_outlineAll : ∀ rs : List Reading, ∀ part ∈ outlineAll rs, Readable part
  | [] => fun _ h => absurd h List.not_mem_nil
  | r :: rs => List.forall_mem_cons.2 ⟨readable_outline r, readable_outlineAll rs⟩

end

mutual

/-- Different trees have different outlines. -/
theorem outline_injective : ∀ {r s : Reading}, r.outline = s.outline → r = s
  | leaf _, leaf _, h => congrArg leaf (Leaf.text_injective (Outline.leaf.inj h))
  | leaf _, list _, h => Outline.noConfusion h
  | list _, leaf _, h => Outline.noConfusion h
  | list _, list _, h => congrArg list (outlineAll_injective (Outline.group.inj h).2.2)

/-- So have different lists of trees. -/
theorem outlineAll_injective : ∀ {rs ss : List Reading}, outlineAll rs = outlineAll ss → rs = ss
  | [], [], _ => rfl
  | [], _ :: _, h => absurd h.symm (List.cons_ne_nil _ _)
  | _ :: _, [], h => absurd h (List.cons_ne_nil _ _)
  | _ :: _, _ :: _, h =>
    have hcons := List.cons.inj h
    congrArg₂ List.cons (outline_injective hcons.1) (outlineAll_injective hcons.2)

end

mutual

/-- The value without numbers in single precision that the tree stands for: every numeral is taken
for that of an integer. -/
def value : Reading → AttrValue
  | leaf (.string text) => .string text
  | leaf (.number numeral _) => .int (Int64.ofInt (numeral.toInt?.getD 0))
  | leaf (.bool b) => .bool b
  | leaf (.elementType t) => .elementType t
  | list items => .list (valueAll items)

/-- The values that trees stand for. -/
def valueAll : List Reading → List AttrValue
  | [] => []
  | item :: items => value item :: valueAll items

end

/-- The values that trees stand for are those of the trees one by one. -/
theorem valueAll_eq_map (rs : List Reading) : valueAll rs = rs.map value := by
  induction rs with
  | nil => rfl
  | cons r rs ih => rw [valueAll, ih, List.map_cons]

end Reading

/-! ## The tree of a value -/

/-- The tree of an integer: a leaf with its numeral. -/
def intReading (n : Int64) : Reading := .leaf (.number (intText n) (isNumeral_intText n))

/-- The integer is read back from it. -/
theorem value_intReading (n : Int64) : (intReading n).value = .int n := by
  rw [intReading, Reading.value, toInt?_intText, Option.getD_some, Int64.ofInt_toInt]

namespace AttrValue

mutual

/-- The tree of a value: a list of either form is a list, and a number is its numeral. -/
def reading : AttrValue → Reading
  | string text => .leaf (.string text)
  | int n => intReading n
  | ints ns => .list (ns.map intReading)
  | float x => .leaf (.number (NumberLayout.plain.write x) (NumberLayout.isNumeral_write_plain x))
  | bool b => .leaf (.bool b)
  | elementType t => .leaf (.elementType t)
  | list items => .list (readingAll items)

/-- The trees of values. -/
def readingAll : List AttrValue → List Reading
  | [] => []
  | item :: items => reading item :: readingAll items

end

mutual

/-- The value with every list of integers given as a list of values. -/
def itemized : AttrValue → AttrValue
  | ints ns => list (ns.map int)
  | list items => list (itemizedAll items)
  | v => v

/-- The values, each with every list of integers given as a list of values. -/
def itemizedAll : List AttrValue → List AttrValue
  | [] => []
  | item :: items => itemized item :: itemizedAll items

end

/-- The items of a list are changed one by one. -/
theorem itemizedAll_eq_map (items : List AttrValue) : itemizedAll items = items.map itemized := by
  induction items with
  | nil => rfl
  | cons item items ih => rw [itemizedAll, ih, List.map_cons]

/-- A list without a name is written between square brackets. -/
theorem compact_sequence (items : List Outline) :
    (sequence items).compact = bracketed (items.map Outline.compact) := by
  cases items with
  | nil => rfl
  | cons item items =>
    rw [sequence, Outline.compact, Outline.compactAll_eq_map, bracketed, List.map_cons]
    simp [Text.Bracket.opening, Text.Bracket.closing, Text.Bracket.padding]

/-- The trees of values are their trees one by one. -/
theorem readingAll_eq_map (items : List AttrValue) : readingAll items = items.map reading := by
  induction items with
  | nil => rfl
  | cons item items ih => rw [readingAll, ih, List.map_cons]

/-- **The terse text of a value** is the text of its tree. -/
theorem display_eq_compact (v : AttrValue) : v.display = v.reading.outline.compact := by
  induction v using AttrValue.induction with
  | string text => rfl
  | int n => rfl
  | ints ns =>
    have htexts : ns.map intText = (ns.map fun n => (intReading n).outline.compact) := rfl
    rw [display, reading, Reading.outline, compact_sequence, Reading.outlineAll_eq_map,
      List.map_map, List.map_map, htexts]
    rfl
  | float x => rfl
  | bool b => rfl
  | elementType t => rfl
  | list items ih =>
    have htexts : items.map display = items.map fun v => v.reading.outline.compact :=
      List.map_congr_left ih
    rw [display, reading, Reading.outline, compact_sequence, Reading.outlineAll_eq_map,
      readingAll_eq_map, List.map_map, List.map_map, displayAll_eq_map, htexts]
    rfl

/-- Giving the lists of integers as lists of values does not change the tree. -/
theorem reading_itemized (v : AttrValue) : v.itemized.reading = v.reading := by
  induction v using AttrValue.induction with
  | string text => rfl
  | int n => rfl
  | ints ns =>
    rw [itemized, reading, reading, readingAll_eq_map, List.map_map]
    rfl
  | float x => rfl
  | bool b => rfl
  | elementType t => rfl
  | list items ih =>
    have hitems : readingAll (itemizedAll items) = readingAll items := by
      rw [readingAll_eq_map, readingAll_eq_map, itemizedAll_eq_map, List.map_map]
      exact List.map_congr_left ih
    rw [itemized, reading, reading, hitems]

/-- **Without numbers in single precision** the tree tells the value, except for the form of its
lists. -/
theorem value_reading {v : AttrValue} (h : v.singles = []) : v.reading.value = v.itemized := by
  induction v using AttrValue.induction with
  | string text => rfl
  | int n => exact value_intReading n
  | ints ns =>
    have hints : Reading.valueAll (ns.map intReading) = ns.map int := by
      rw [Reading.valueAll_eq_map, List.map_map]
      exact List.map_congr_left fun n _ => value_intReading n
    rw [reading, Reading.value, hints, itemized]
  | float x => exact absurd h (List.cons_ne_nil x [])
  | bool b => rfl
  | elementType t => rfl
  | list items ih =>
    have hitems : Reading.valueAll (readingAll items) = itemizedAll items := by
      rw [Reading.valueAll_eq_map, readingAll_eq_map, List.map_map, itemizedAll_eq_map]
      exact List.map_congr_left fun v hv => ih v hv (singles_eq_nil_of_mem h hv)
    rw [reading, Reading.value, hitems, itemized]

/-- **Displayed values can be told apart**: two values have the same terse text exactly if they
have the same tree. Without numbers in single precision, they then are the same value with every
list of integers given as a list of values.

**Proof sketch.** The terse text is that of the tree, and the tree is read back from it. -/
theorem display_tells_reading :
    (∀ a b : AttrValue, a.display = b.display ↔ a.reading = b.reading) ∧
      ∀ a b : AttrValue, a.singles = [] → b.singles = [] →
        (a.display = b.display ↔ a.itemized = b.itemized) := by
  have hreading : ∀ a b : AttrValue, a.display = b.display ↔ a.reading = b.reading := by
    intro a b
    rw [display_eq_compact, display_eq_compact, Outline.compact_inj a.reading.readable_outline
      b.reading.readable_outline]
    exact ⟨Reading.outline_injective, congrArg Reading.outline⟩
  refine ⟨hreading, fun a b ha hb => ?_⟩
  rw [hreading]
  constructor
  · intro h
    rw [← value_reading ha, ← value_reading hb, h]
  · intro h
    rw [← reading_itemized a, ← reading_itemized b, h]

/-- A quote and a comma inside a text do not end it. -/
example : (list [string "a\", \"b"]).display ≠ (list [string "a", string "b"]).display := by
  decide

end AttrValue

end OperatorIR
