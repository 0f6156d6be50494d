import OperatorIR.Text.Outline

/-!
# Element types

The types that the elements of a tensor can have: truth values, unsigned and signed integers of
several widths, and floating-point numbers. They come in a fixed order, which is the order of the
list `all` and of comparison.

## Main definitions

* `OperatorIR.ElementType` — the thirteen types.
* `OperatorIR.ElementType.name` — the name of a type in messages and outlines.
* `OperatorIR.ElementType.all`, `ordinal` — all types in order, and the place of a type among them.
* `OperatorIR.ElementType.sorted` — a list of types in ascending order.

## Main results

* `OperatorIR.ElementType.mem_all` — the list is complete.
* `OperatorIR.ElementType.ordinal_injective` — types at one place are the same.
-/

set_option autoImplicit false

namespace OperatorIR

/-- The type of the elements of a tensor. -/
inductive ElementType where
  | bool
  | u1
  | u4
  | u8
  | u32
  | u64
  | i4
  | i8
  | i32
  | i64
  | f16
  | f32
  | f64
  deriving DecidableEq

namespace ElementType

/-- The name of a type: its letter in upper case and its width in bits. -/
def name : ElementType → String
  | bool => "Bool"
  | u1 => "U1"
  | u4 => "U4"
  | u8 => "U8"
  | u32 => "U32"
  | u64 => "U64"
  | i4 => "I4"
  | i8 => "I8"
  | i32 => "I32"
  | i64 => "I64"
  | f16 => "F16"
  | f32 => "F32"
  | f64 => "F64"

/-! ## Order -/

/-- All types in order. -/
def all : List ElementType :=
  [bool, u1, u4, u8, u32, u64, i4, i8, i32, i64, f16, f32, f64]

/-- The place of a type in the order, from zero. -/
def ordinal (t : ElementType) : Nat := all.idxOf t

/-- Types are compared by their places. -/
instance : Ord ElementType := ⟨fun s t => compare s.ordinal t.ordinal⟩

/-- The types in ascending order; repeated ones stay. -/
def sorted (ts : List ElementType) : List ElementType :=
  ts.mergeSort fun s t => (compare s t).isLE

/-- Every type is in the list of all types. -/
theorem mem_all (t : ElementType) : t ∈ all := by cases t <;> decide

/-- Two types at the same place are the same. -/
theorem ordinal_injective {s t : ElementType} (h : s.ordinal = t.ordinal) : s = t := by
  cases s <;> cases t <;> first | rfl | exact absurd h (by decide)

/-! ## Text -/

/-- The outline of a type is its name. -/
def outline (t : ElementType) : Text.Outline := .leaf t.name

/-- A list of types on one line, between square brackets. -/
def listText (ts : List ElementType) : String :=
  (Text.Outline.group "" .square (ts.map outline)).compact

/-- Two types of one name are the same. -/
theorem name_injective {s t : ElementType} (h : s.name = t.name) : s = t := by
  cases s <;> cases t <;> first | rfl | exact absurd h (by decide)

end ElementType

end OperatorIR
