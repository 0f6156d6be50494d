import OperatorIR.Text.Indent

/-!
# Outlines of nested values

A value is shown for inspection as an outline: a leaf of text, a labelled part, or a named group
of parts between brackets. An outline is written in one of two ways. The compact way puts
everything on one line; the spread way puts each part of a group on a line of its own, four blanks
further in than the line that opens the group, and a comma after it.

## Main definitions

* `OperatorIR.Text.Bracket` — the four kinds of brackets, with their opening and closing text.
* `OperatorIR.Text.Outline` — outlines.
* `OperatorIR.Text.Outline.compact` — the outline on one line.
* `OperatorIR.Text.Outline.spread` — the outline with one part to a line.

## Main results

* `OperatorIR.Text.Outline.compactAll_eq_map` — the parts of a group are written one by one.

## Design

The spread form carries the depth of the line on which the outline begins. A line break inside a
leaf is followed by the blanks of that depth, so that the text of a leaf stays behind its margin.
A group without parts stays closed on its line in both forms.
-/

set_option autoImplicit false

namespace OperatorIR.Text

/-- The brackets of a group: round around the content of a wrapper, square around a sequence,
curly around a map, and those of a record, which keeps a blank inside when it is on one line. -/
inductive Bracket where
  | round
  | square
  | curly
  | record
  deriving DecidableEq

namespace Bracket

/-- The text that opens a group. -/
def opening : Bracket → String
  | round => "("
  | square => "["
  | curly => "\x7b"
  | record => " \x7b"

/-- The text that closes a group. -/
def closing : Bracket → String
  | round => ")"
  | square => "]"
  | curly => "\x7d"
  | record => "\x7d"

/-- What stands inside the brackets next to them when the group is on one line. -/
def padding : Bracket → String
  | record => " "
  | _ => ""

end Bracket

/-- The shape of a value shown for inspection. -/
inductive Outline where
  /-- Text that stands as it is. -/
  | leaf (text : String)
  /-- A part with a label in front. -/
  | labelled (label : String) (part : Outline)
  /-- A named group of parts; the name may be empty. -/
  | group (name : String) (bracket : Bracket) (parts : List Outline)

namespace Outline

/-! ## On one line -/

mutual

/-- The outline on one line. -/
def compact : Outline → String
  | leaf text => text
  | labelled label part => label ++ ": " ++ compact part
  | group name b [] => name ++ b.opening ++ b.closing
  | group name b (part :: parts) =>
    name ++ b.opening ++ b.padding ++ ", ".intercalate (compact part :: compactAll parts)
      ++ b.padding ++ b.closing

/-- The parts of a group, each on one line. -/
def compactAll : List Outline → List String
  | [] => []
  | part :: parts => compact part :: compactAll parts

end

/-- The parts of a group are written one by one. -/
theorem compactAll_eq_map (parts : List Outline) : compactAll parts = parts.map compact := by
  induction parts with
  | nil => rfl
  | cons part parts ih => rw [compactAll, ih, List.map_cons]

/-! ## One part to a line -/

/-- How many blanks a line at the given depth begins with. -/
def margin (depth : Nat) : Nat := 4 * depth

/-- A part on a line of its own at the given depth. -/
def partLine (depth : Nat) (part : String) : String := spaces (margin depth) ++ part ++ ",\n"

mutual

/-- The outline with one part to a line, begun on a line at the given depth. -/
def spread (depth : Nat) : Outline → String
  | leaf text => hang (margin depth) text
  | labelled label part => hang (margin depth) label ++ ": " ++ spread depth part
  | group name b [] => name ++ b.opening ++ b.closing
  | group name b (part :: parts) =>
    name ++ b.opening ++ "\n"
      ++ String.join (partLine (depth + 1) (spread (depth + 1) part)
        :: spreadAll (depth + 1) parts)
      ++ spaces (margin depth) ++ b.closing

/-- The parts of a group, each on a line of its own. -/
def spreadAll (depth : Nat) : List Outline → List String
  | [] => []
  | part :: parts => partLine depth (spread depth part) :: spreadAll depth parts

end

end Outline

end OperatorIR.Text
