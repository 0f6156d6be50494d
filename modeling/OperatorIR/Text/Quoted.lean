import OperatorIR.Text.DefaultIgnorable
import OperatorIR.Text.ExtendingMark
import OperatorIR.Text.Unprintable

/-!
# Quoted text

A text is quoted so that it stands on one line and its end can be found: it goes between double
quotes, a quote or a backslash inside gets a backslash in front, and a character that would not
show on its own is written by a short name (`\0`, `\t`, `\r`, `\n`) or by its number in
hexadecimal between braces. All other characters stand for themselves, the apostrophe included.

## Main definitions

* `OperatorIR.Text.escapeChar` — the written form of one character.
* `OperatorIR.Text.quoted` — a text between double quotes.

## Main results

* `OperatorIR.Text.isHidden_iff` — which characters are written by their number.
* `OperatorIR.Text.toList_quoted`, `OperatorIR.Text.escape_cons` — how quoted text is made up.
* `OperatorIR.Text.newline_not_mem_quoted` — quoted text stands on one line.
-/

set_option autoImplicit false

namespace OperatorIR.Text

/-- Does the character need its number because it would not show, or not on its own? -/
def isHidden (c : Char) : Bool := isExtendingMark c || isDefaultIgnorable c || isUnprintable c

/-- **The hidden characters** are those in one of the three tables: the tables are ascending, so no
search stops too early. -/
theorem isHidden_iff (c : Char) :
    isHidden c = true ↔
      ∃ r ∈ extendingMarkRanges ++ defaultIgnorableRanges ++ unprintableRanges,
        r.1 ≤ c.toNat ∧ c.toNat ≤ r.2 := by
  have hmark : isExtendingMark c = true ↔ _ := inRanges_iff isAscending_extendingMarkRanges c.toNat
  have hignorable : isDefaultIgnorable c = true ↔ _ :=
    inRanges_iff isAscending_defaultIgnorableRanges c.toNat
  have hunprintable : isUnprintable c = true ↔ _ :=
    inRanges_iff isAscending_unprintableRanges c.toNat
  rw [isHidden, Bool.or_eq_true, Bool.or_eq_true, hmark, hignorable, hunprintable]
  simp only [List.mem_append, or_and_right, exists_or]

/-- A character written by its number: lower-case hexadecimal digits, as few as possible. -/
def numbered (c : Char) : List Char :=
  ['\\', 'u', '\x7b'] ++ Nat.toDigits 16 c.toNat ++ ['\x7d']

/-- The written form of one character inside quotes. -/
def escapeChar (c : Char) : List Char :=
  if c = '"' then ['\\', '"']
  else if c = '\\' then ['\\', '\\']
  else if c = '\x00' then ['\\', '0']
  else if c = '\t' then ['\\', 't']
  else if c = '\r' then ['\\', 'r']
  else if c = '\n' then ['\\', 'n']
  else if isHidden c then numbered c
  else [c]

/-- The written form of a run of characters inside quotes. -/
def escape (cs : List Char) : List Char := cs.flatMap escapeChar

/-- A text between double quotes. -/
def quoted (s : String) : String := String.ofList ('"' :: escape s.toList ++ ['"'])

/-- The characters of quoted text. -/
theorem toList_quoted (s : String) : (quoted s).toList = '"' :: escape s.toList ++ ['"'] := by
  simp [quoted]

/-- Characters are written one after the other. -/
theorem escape_cons (c : Char) (cs : List Char) : escape (c :: cs) = escapeChar c ++ escape cs := by
  simp [escape]

/-! ## Line breaks -/

/-- The digits of a number are digit characters of its base. -/
private theorem mem_toDigitsCore {base : Nat} (hb : 0 < base) {c : Char} (fuel n : Nat)
    (acc : List Char) (h : c ∈ Nat.toDigitsCore base fuel n acc) :
    c ∈ acc ∨ ∃ d, d < base ∧ c = Nat.digitChar d := by
  induction fuel generalizing n acc with
  | zero => exact Or.inl h
  | succ fuel ih =>
    simp only [Nat.toDigitsCore] at h
    have hd : n % base < base := Nat.mod_lt n hb
    split at h
    · rcases List.mem_cons.1 h with rfl | h
      · exact Or.inr ⟨_, hd, rfl⟩
      · exact Or.inl h
    · rcases ih _ _ h with h | h
      · rcases List.mem_cons.1 h with rfl | h
        · exact Or.inr ⟨_, hd, rfl⟩
        · exact Or.inl h
      · exact Or.inr h

/-- Hexadecimal digits are sixteen characters. -/
theorem mem_hexDigits {c : Char} {n : Nat} (h : c ∈ Nat.toDigits 16 n) :
    c ∈ ['0', '1', '2', '3', '4', '5', '6', '7', '8', '9', 'a', 'b', 'c', 'd', 'e', 'f'] := by
  rcases mem_toDigitsCore (by decide) _ _ _ h with h | ⟨d, hd, rfl⟩
  · simp at h
  · have all : ∀ d : Fin 16, Nat.digitChar d ∈
        ['0', '1', '2', '3', '4', '5', '6', '7', '8', '9', 'a', 'b', 'c', 'd', 'e', 'f'] := by
      decide
    exact all ⟨d, hd⟩

/-- No character is written with a line break. -/
theorem newline_not_mem_escapeChar (c : Char) : '\n' ∉ escapeChar c := by
  unfold escapeChar numbered
  intro h
  split at h
  · simp at h
  split at h
  · simp at h
  split at h
  · simp at h
  split at h
  · simp at h
  split at h
  · simp at h
  split at h
  · simp at h
  next hc =>
    split at h
    · simp only [List.mem_append] at h
      rcases h with (h | h) | h
      · simp at h
      · exact absurd (mem_hexDigits h) (by decide)
      · simp at h
    · exact hc (List.mem_singleton.1 h).symm

/-- Quoted text stands on one line. -/
theorem newline_not_mem_quoted (s : String) : '\n' ∉ (quoted s).toList := by
  rw [toList_quoted]
  simp only [List.cons_append, List.mem_cons, List.mem_append, escape, List.mem_flatMap]
  rintro (h | ⟨c, -, h⟩ | h)
  · exact absurd h (by decide)
  · exact newline_not_mem_escapeChar c h
  · simp at h

end OperatorIR.Text
