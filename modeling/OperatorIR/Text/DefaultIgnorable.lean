import OperatorIR.Text.Ranges

/-!
# Characters that are ignored in display

The code points with the property `Default_Ignorable_Code_Point`, as of Unicode 17.0. Where nothing
supports them they are drawn as nothing at all, so quoted text writes them by their number. Most of
them are format characters or marks; the four fillers of Hangul are letters, and no general category
would tell them from letters that are seen.

## Main definitions

* `OperatorIR.Text.defaultIgnorableRanges` — the ranges.
* `OperatorIR.Text.isDefaultIgnorable` — membership of a character.
-/

set_option autoImplicit false

namespace OperatorIR.Text

/-- The ranges of `Default_Ignorable_Code_Point`. -/
def defaultIgnorableRanges : List (Nat × Nat) :=
  [(0xad, 0xad), (0x34f, 0x34f), (0x61c, 0x61c), (0x115f, 0x1160), (0x17b4, 0x17b5),
   (0x180b, 0x180f), (0x200b, 0x200f), (0x202a, 0x202e), (0x2060, 0x206f), (0x3164, 0x3164),
   (0xfe00, 0xfe0f), (0xfeff, 0xfeff), (0xffa0, 0xffa0), (0xfff0, 0xfff8), (0x1bca0, 0x1bca3),
   (0x1d173, 0x1d17a), (0xe0000, 0xe0fff)]

/-- The ranges are in ascending order. -/
theorem isAscending_defaultIgnorableRanges : isAscending defaultIgnorableRanges = true := by
  decide +kernel

/-- Is the character ignored in display? -/
def isDefaultIgnorable (c : Char) : Bool := inRanges defaultIgnorableRanges c.toNat

end OperatorIR.Text
