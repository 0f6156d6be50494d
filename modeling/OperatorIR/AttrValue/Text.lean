import OperatorIR.AttrValue.Basic
import OperatorIR.Number.Layout
import OperatorIR.Text.Quoted

/-!
# Attribute values in text

A value is shown in two ways. Messages display it tersely: texts in quotes, numbers in the plain
layout, lists between square brackets, whichever form they have. For inspection it has an outline,
which names the kind of every value at every depth and uses the general layout of numbers.

## Main definitions

* `OperatorIR.AttrValue.display` — the terse text of a value.
* `OperatorIR.AttrValue.outline` — the outline of a value.
* `OperatorIR.AttrValue.compactText`, `spreadText` — the outline on one line, and spread out.

## Main results

* `OperatorIR.AttrValue.displayAll_eq_map`, `OperatorIR.AttrValue.outlineAll_eq_map` — the items
  of a list are shown one by one.
-/

set_option autoImplicit false

namespace OperatorIR

open Text (Outline quoted)

/-- The decimal digits of an integer, behind a minus sign if it is negative. -/
def intText (n : Int64) : String := n.toInt.repr

/-- A truth value in lower case. -/
def boolText : Bool → String
  | true => "true"
  | false => "false"

namespace AttrValue

/-! ## Display -/

/-- Items between square brackets, on one line. -/
def bracketed (items : List String) : String := "[" ++ ", ".intercalate items ++ "]"

mutual

/-- The terse text of a value. -/
def display : AttrValue → String
  | string text => quoted text
  | int n => intText n
  | ints ns => bracketed (ns.map intText)
  | float x => NumberLayout.plain.write x
  | bool b => boolText b
  | elementType t => t.name
  | list items => bracketed (displayAll items)

/-- The terse texts of the items of a list. -/
def displayAll : List AttrValue → List String
  | [] => []
  | item :: items => display item :: displayAll items

end

/-- The items of a list are displayed one by one. -/
theorem displayAll_eq_map (items : List AttrValue) : displayAll items = items.map display := by
  induction items with
  | nil => rfl
  | cons item items ih => rw [displayAll, ih, List.map_cons]

/-! ## Outline -/

/-- A value wrapped in the name of its kind. -/
def wrapped (name : String) (content : Outline) : Outline := .group name .round [content]

/-- A list of outlines without a name. -/
def sequence (items : List Outline) : Outline := .group "" .square items

mutual

/-- The outline of a value: its content inside the name of its kind. -/
def outline : AttrValue → Outline
  | string text => wrapped "String" (.leaf (quoted text))
  | int n => wrapped "Int" (.leaf (intText n))
  | ints ns => wrapped "Ints" (sequence (ns.map fun n => .leaf (intText n)))
  | float x => wrapped "Float" (.leaf (NumberLayout.general.write x))
  | bool b => wrapped "Bool" (.leaf (boolText b))
  | elementType t => wrapped "DatumType" t.outline
  | list items => wrapped "List" (sequence (outlineAll items))

/-- The outlines of the items of a list. -/
def outlineAll : List AttrValue → List Outline
  | [] => []
  | item :: items => outline item :: outlineAll items

end

/-- The items of a list are outlined one by one. -/
theorem outlineAll_eq_map (items : List AttrValue) : outlineAll items = items.map outline := by
  induction items with
  | nil => rfl
  | cons item items ih => rw [outlineAll, ih, List.map_cons]

/-- The outline of a value on one line. -/
def compactText (v : AttrValue) : String := v.outline.compact

/-- The outline of a value with one part to a line. -/
def spreadText (v : AttrValue) : String := v.outline.spread 0

end AttrValue

end OperatorIR
