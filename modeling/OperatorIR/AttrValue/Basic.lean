import OperatorIR.ElementType.Basic
import OperatorIR.Number.Single

/-!
# Attribute values

An attribute of an operator is a text, an integer, a list of integers, a number, a truth value, an
element type, or a list of attribute values, which may hold lists again. A file gives a list of
integers either as such or as a list of values, and the two are told apart.

## Main definitions

* `OperatorIR.AttrValue` — the values.
* `OperatorIR.AttrValue.kind` — the kind of a value, as messages name it.
* `OperatorIR.AttrValue.isList`, `asString?`, `asElementType?` — tests and views of a value.
* `OperatorIR.AttrValue.listed` — the value as a list, wrapped if it is none.

## Main results

* `OperatorIR.AttrValue.isList_listed` — a listed value is a list.
* `OperatorIR.AttrValue.listed_listed` — listing it again changes nothing.
-/

set_option autoImplicit false

namespace OperatorIR

/-- The value of an attribute. -/
inductive AttrValue where
  /-- A text. -/
  | string (text : String)
  /-- An integer of 64 bits. -/
  | int (n : Int64)
  /-- A list of integers, given as such. -/
  | ints (ns : List Int64)
  /-- A number in single precision. -/
  | float (x : Single)
  /-- A truth value. -/
  | bool (b : Bool)
  /-- An element type. -/
  | elementType (t : ElementType)
  /-- A list of values. -/
  | list (items : List AttrValue)

namespace AttrValue

/-- The kind of a value, as messages name it. -/
def kind : AttrValue → String
  | string _ => "string"
  | int _ => "int"
  | ints _ => "list of ints"
  | float _ => "float"
  | bool _ => "bool"
  | elementType _ => "datum type"
  | list _ => "list"

/-- Is the value a list of either form? -/
def isList : AttrValue → Bool
  | ints _ => true
  | list _ => true
  | _ => false

/-- The text, if the value is one. -/
def asString? : AttrValue → Option String
  | string text => some text
  | _ => none

/-- The element type, if the value is one. -/
def asElementType? : AttrValue → Option ElementType
  | elementType t => some t
  | _ => none

/-! ## Lists -/

/-- The value as a list: a list of either form stays, any other value becomes the only item. -/
def listed (v : AttrValue) : AttrValue := if v.isList then v else list [v]

/-- A list stays as it is. -/
theorem listed_of_isList {v : AttrValue} (h : v.isList = true) : v.listed = v := by
  simp [listed, h]

/-- Any other value is wrapped. -/
theorem listed_of_not_isList {v : AttrValue} (h : v.isList = false) : v.listed = list [v] := by
  simp [listed, h]

/-- A listed value is a list. -/
theorem isList_listed (v : AttrValue) : v.listed.isList = true := by
  cases h : v.isList
  · rw [listed_of_not_isList h]; rfl
  · rw [listed_of_isList h, h]

/-- Listing a value again changes nothing. -/
theorem listed_listed (v : AttrValue) : v.listed.listed = v.listed :=
  listed_of_isList (isList_listed v)

end AttrValue

end OperatorIR
