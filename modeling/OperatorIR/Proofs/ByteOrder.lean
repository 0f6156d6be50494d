/-!
# Texts in the order of their bytes

Names are ordered by their code points. Whoever holds them in UTF-8 and orders them by their bytes
gets the same order. A code point is written as a first byte and bytes that go on with its lower
digits to base 64; a larger code point has more bytes and a larger first one, or as many and a
larger digit where the first difference is.

## Main definitions

* `OperatorIR.Text.bytes`, `OperatorIR.Text.codePoints` — the bytes of a text in UTF-8, and its code
  points.
* `OperatorIR.Text.byteSequence` — a number in a first byte and bytes that go on.

## Main results

* `OperatorIR.Text.utf8EncodeChar_eq` — a character in UTF-8 is such a sequence.
* `OperatorIR.Text.utf8EncodeChar_append_lt` — a smaller character is smaller in bytes, whatever
  comes behind it.
* `OperatorIR.Text.bytes_lt_iff`, `OperatorIR.Text.codePoints_lt_iff` — the order of bytes, and that
  of code points, is the order of texts.
-/

set_option autoImplicit false

namespace OperatorIR.Text

/-! ## Numbers in bytes -/

/-- The bytes of a text in UTF-8. -/
def bytes (s : String) : List UInt8 := s.toUTF8.data.toList

/-- A number in a first byte, which is marked, and in the given number of bytes that go on, each
with one digit to base 64. -/
def byteSequence (mark : Nat) : Nat → Nat → List UInt8
  | 0, v => [.ofNat (mark + v)]
  | more + 1, v => byteSequence mark more (v / 64) ++ [.ofNat (0x80 + v % 64)]

/-- A number without its last digits to base 64, as many as given. -/
def withoutDigits : Nat → Nat → Nat
  | 0, v => v
  | more + 1, v => withoutDigits more (v / 64)

/-- A smaller first byte makes a list of bytes smaller. -/
private theorem ofNat_cons_lt {m n : Nat} (h : m < n) (hn : n < 256) (xs ys : List UInt8) :
    UInt8.ofNat m :: xs < UInt8.ofNat n :: ys := by
  have hm : m < 256 := Nat.lt_trans h hn
  exact List.cons_lt_cons_iff.2 (Or.inl ((UInt8.ofNat_lt_iff_lt hm hn).2 h))

/-- The first byte holds what the other bytes leave over. -/
theorem byteSequence_eq_cons (mark more v : Nat) :
    ∃ rest, byteSequence mark more v = .ofNat (mark + withoutDigits more v) :: rest := by
  induction more generalizing v with
  | zero => exact ⟨[], rfl⟩
  | succ more ih =>
    obtain ⟨rest, h⟩ := ih (v / 64)
    refine ⟨rest ++ [.ofNat (0x80 + v % 64)], ?_⟩
    rw [byteSequence, withoutDigits, h, List.cons_append]

/-- Of two numbers in as many bytes with one mark the smaller one is smaller in bytes.

**Proof sketch.** Induction on the number of bytes that go on. Without its last digit the smaller
number is smaller still, or the two are equal and the last digits decide. -/
theorem byteSequence_append_lt {mark more v w : Nat} (h : v < w)
    (hw : mark + withoutDigits more w < 256) (xs ys : List UInt8) :
    byteSequence mark more v ++ xs < byteSequence mark more w ++ ys := by
  induction more generalizing v w xs ys with
  | zero => exact ofNat_cons_lt (Nat.add_lt_add_left h mark) hw xs ys
  | succ more ih =>
    rw [byteSequence, byteSequence, List.append_assoc, List.append_assoc]
    rcases Nat.lt_or_eq_of_le (Nat.div_le_div_right (c := 64) (Nat.le_of_lt h)) with hlt | heq
    · exact ih hlt hw _ _
    · have hdigit : 0x80 + v % 64 < 0x80 + w % 64 := by omega
      have hbyte : 0x80 + w % 64 < 256 := by omega
      rw [heq]
      exact List.append_left_lt (ofNat_cons_lt hdigit hbyte xs ys)

/-! ## Characters in bytes -/

/-- How many bytes follow the first one of a code point. -/
def trailing (v : Nat) : Nat :=
  if v ≤ 0x7f then 0 else if v ≤ 0x7ff then 1 else if v ≤ 0xffff then 2 else 3

/-- The mark of a first byte, by the number of bytes that follow. -/
def leadingMark : Nat → Nat
  | 0 => 0
  | 1 => 0xc0
  | 2 => 0xe0
  | _ => 0xf0

/-- The first byte of a code point. -/
def firstByte (v : Nat) : Nat := leadingMark (trailing v) + withoutDigits (trailing v) v

/-- The four lengths of code points, each with its first bytes. -/
theorem trailing_cases (v : Nat) :
    (v ≤ 0x7f ∧ trailing v = 0 ∧ firstByte v = v) ∨
    (0x7f < v ∧ v ≤ 0x7ff ∧ trailing v = 1 ∧ firstByte v = 0xc0 + v / 64) ∨
    (0x7ff < v ∧ v ≤ 0xffff ∧ trailing v = 2 ∧ firstByte v = 0xe0 + v / 64 / 64) ∨
    (0xffff < v ∧ trailing v = 3 ∧ firstByte v = 0xf0 + v / 64 / 64 / 64) := by
  unfold firstByte trailing
  split
  next h => exact Or.inl ⟨h, rfl, Nat.zero_add v⟩
  next h1 =>
    split
    next h => exact Or.inr (Or.inl ⟨Nat.lt_of_not_le h1, h, rfl, rfl⟩)
    next h2 =>
      split
      next h => exact Or.inr (Or.inr (Or.inl ⟨Nat.lt_of_not_le h2, h, rfl, rfl⟩))
      next h3 => exact Or.inr (Or.inr (Or.inr ⟨Nat.lt_of_not_le h3, rfl, rfl⟩))

/-- Code points end at `0x10ffff`. -/
theorem toNat_val_lt (c : Char) : c.val.toNat < 0x110000 := by
  rcases c.valid with h | ⟨-, h⟩
  · exact Nat.lt_trans h (by decide)
  · exact h

/-- A character in UTF-8 is its code point in a first byte and the bytes that follow. -/
theorem utf8EncodeChar_eq (c : Char) :
    String.utf8EncodeChar c =
      byteSequence (leadingMark (trailing c.val.toNat)) (trailing c.val.toNat) c.val.toNat := by
  have hc := toNat_val_lt c
  generalize hv : c.val.toNat = v at hc
  rcases trailing_cases v with ⟨h, ht, -⟩ | ⟨h, h', ht, -⟩ | ⟨h, h', ht, -⟩ | ⟨h, ht, -⟩
  · simp [String.utf8EncodeChar, hv, ht, byteSequence, leadingMark, h]
  · have hfirst : v / 64 % 32 = v / 64 := by omega
    have hn : ¬ v ≤ 127 := Nat.not_le.2 h
    simp [String.utf8EncodeChar, hv, ht, byteSequence, leadingMark, hn, h', hfirst, Nat.add_comm]
  · have hfirst : v / 4096 % 16 = v / 4096 := by omega
    have hn : ¬ v ≤ 127 := by omega
    have hn' : ¬ v ≤ 2047 := Nat.not_le.2 h
    simp [String.utf8EncodeChar, hv, ht, byteSequence, leadingMark, hn, hn', h', hfirst,
      Nat.add_comm, Nat.div_div_eq_div_mul]
  · have hfirst : v / 262144 % 8 = v / 262144 := by omega
    have hn : ¬ v ≤ 127 := by omega
    have hn' : ¬ v ≤ 2047 := by omega
    have hn'' : ¬ v ≤ 65535 := Nat.not_le.2 h
    simp [String.utf8EncodeChar, hv, ht, byteSequence, leadingMark, hn, hn', hn'', hfirst,
      Nat.add_comm, Nat.div_div_eq_div_mul]

/-- A smaller character is smaller in bytes, whatever comes behind the two. -/
theorem utf8EncodeChar_append_lt {c d : Char} (h : c < d) (xs ys : List UInt8) :
    String.utf8EncodeChar c ++ xs < String.utf8EncodeChar d ++ ys := by
  have hlt : c.val.toNat < d.val.toNat := h
  have hd := toNat_val_lt d
  rw [utf8EncodeChar_eq, utf8EncodeChar_eq]
  generalize c.val.toNat = v at hlt
  generalize d.val.toNat = w at hlt hd
  have hv := trailing_cases v
  have hw := trailing_cases w
  have hbyte : firstByte w < 256 := by omega
  by_cases heq : trailing v = trailing w
  · rw [heq]
    exact byteSequence_append_lt hlt hbyte xs ys
  · -- the larger one has more bytes, and the first byte shows it
    have hfirst : firstByte v < firstByte w := by omega
    obtain ⟨vs, hvs⟩ := byteSequence_eq_cons (leadingMark (trailing v)) (trailing v) v
    obtain ⟨ws, hws⟩ := byteSequence_eq_cons (leadingMark (trailing w)) (trailing w) w
    rw [hvs, hws, List.cons_append, List.cons_append]
    exact ofNat_cons_lt hfirst hbyte _ _

/-! ## Texts in bytes -/

/-- A text in UTF-8 is its characters in UTF-8, one after the other. -/
theorem bytes_eq_flatMap (s : String) : bytes s = s.toList.flatMap String.utf8EncodeChar := by
  rw [bytes, String.toUTF8, ← String.utf8Encode_toList, List.utf8Encode, List.data_toByteArray]

/-- A smaller list of characters is smaller in bytes. -/
theorem flatMap_utf8EncodeChar_lt {cs ds : List Char} (h : cs < ds) :
    cs.flatMap String.utf8EncodeChar < ds.flatMap String.utf8EncodeChar := by
  induction cs generalizing ds with
  | nil =>
    cases ds with
    | nil => exact absurd h (List.lt_irrefl _)
    | cons d ds =>
      rw [List.flatMap_nil, List.flatMap_cons]
      cases hd : String.utf8EncodeChar d with
      | nil => exact absurd hd String.utf8EncodeChar_ne_nil
      | cons b bs => exact List.nil_lt_cons _ _
  | cons c cs ih =>
    cases ds with
    | nil => exact absurd h (List.not_lt_nil _)
    | cons d ds =>
      rw [List.flatMap_cons, List.flatMap_cons]
      rcases List.cons_lt_cons_iff.1 h with hlt | ⟨rfl, hlt⟩
      · exact utf8EncodeChar_append_lt hlt _ _
      · exact List.append_left_lt (ih hlt)

/-! ## The order of texts -/

/-- The code points of a text. -/
def codePoints (s : String) : List Nat := s.toList.map fun c => c.val.toNat

/-- What takes smaller texts to smaller things, in an order in which no two are each smaller than
the other, tells the order of texts. -/
private theorem lt_iff_of_lt_imp_lt {α : Type} [LT α] [Std.Asymm ((· < ·) : α → α → Prop)]
    {f : String → α} (hf : ∀ a b, a < b → f a < f b) (s t : String) : f s < f t ↔ s < t := by
  refine ⟨?_, hf s t⟩
  intro h
  refine Decidable.byContradiction fun hn => ?_
  by_cases hts : t < s
  · exact Std.Asymm.asymm _ _ h (hf t s hts)
  · obtain rfl : s = t := String.le_antisymm (String.not_lt.1 hts) (String.not_lt.1 hn)
    exact Std.Asymm.asymm _ _ h h

/-- **Bytes order texts as code points do.** -/
theorem bytes_lt_iff (s t : String) : bytes s < bytes t ↔ s < t := by
  refine lt_iff_of_lt_imp_lt (fun a b h => ?_) s t
  rw [bytes_eq_flatMap, bytes_eq_flatMap]
  exact flatMap_utf8EncodeChar_lt h

/-- Texts are in the order of their code points. -/
theorem codePoints_lt_iff (s t : String) : codePoints s < codePoints t ↔ s < t := by
  refine lt_iff_of_lt_imp_lt (fun a b h => ?_) s t
  exact List.map_lt (fun _ _ hcd => hcd) (String.lt_iff.1 h)

/-- A text comes before all others that begin with it. -/
theorem lt_of_isPrefix {s t : String} (h : s.toList <+: t.toList) (hne : s ≠ t) : s < t := by
  obtain ⟨rest, hrest⟩ := h
  rw [String.lt_iff, ← hrest]
  cases rest with
  | nil =>
    rw [List.append_nil] at hrest
    exact absurd (String.toList_inj.1 hrest) hne
  | cons c cs =>
    have hlt : s.toList ++ [] < s.toList ++ c :: cs := List.append_left_lt (List.nil_lt_cons c cs)
    rwa [List.append_nil] at hlt

-- a character outside the first plane comes last in bytes, too
example : bytes "\uffff" < bytes "😀" := by decide

end OperatorIR.Text
