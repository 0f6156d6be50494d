import OperatorIR.Proofs.IndentedLines
import OperatorIR.Proofs.KindOrder
import OperatorIR.Proofs.Overrides
import OperatorIR.Proofs.Separators
import OperatorIR.Reader

/-!
# The texts of registers and readers

A register writes its kinds as they are, and kinds can be any texts. The spread text of a reader
holds the text of its register with four blanks put behind each line break, and those can be taken
away again: all lines but the first lose four characters, whatever blanks they begin with
themselves. So the two texts of a reader tell the same. Whether they tell which kinds there are
depends on the kinds: they do if no kind is empty or has the separator inside.

## Main definitions

* `OperatorIR.Text.unhang` — the text without the margin behind its line breaks.
* `OperatorIR.Register.Separable` — a register whose kinds the text tells apart.

## Main results

* `OperatorIR.Text.lines_hang`, `OperatorIR.Text.unhang_hang` — a hung text, line by line, and back.
* `OperatorIR.Reader.spreadText_eq_iff` — both texts of a reader tell the same.
* `OperatorIR.Register.text_eq_iff` — separable registers with one text hold the same kinds.
* `OperatorIR.Register.text_of_separated` — others need not.
* `OperatorIR.Reader.texts_tell_kinds` — the texts of readers and of registers together.
-/

set_option autoImplicit false

namespace OperatorIR

namespace Text

/-! ## Hung texts -/

/-- All lines but the first set in. -/
def setIn (width : Nat) : List (List Char) → List (List Char)
  | [] => []
  | line :: rest => line :: rest.map fun other => List.replicate width ' ' ++ other

/-- All lines but the first without what they begin with. -/
def setOut (width : Nat) : List (List Char) → List (List Char)
  | [] => []
  | line :: rest => line :: rest.map fun other => other.drop width

/-- The text without the margin behind its line breaks. -/
def unhang (width : Nat) (text : String) : String :=
  String.ofList (['\n'].intercalate (setOut width (lines text)))

/-- What was set in is set out again. -/
theorem setOut_setIn (width : Nat) (ls : List (List Char)) :
    setOut width (setIn width ls) = ls := by
  cases ls with
  | nil => rfl
  | cons line rest => simp [setIn, setOut, Function.comp_def]

/-- Characters in front of a text stand in front of its first line, if no line ends in them. -/
theorem splitOn_append {front : List Char} (h : '\n' ∉ front) (cs : List Char) :
    (front ++ cs).splitOn '\n' = (cs.splitOn '\n').modifyHead (front ++ ·) := by
  induction front with
  | nil =>
    rw [List.nil_append]
    cases cs.splitOn '\n' <;> rfl
  | cons c front ih =>
    obtain ⟨hc, hfront⟩ := not_or.1 (mt List.mem_cons.2 h)
    rw [List.cons_append, List.splitOn_cons_eq_if_modifyHead, if_neg (by simpa using Ne.symm hc),
      ih hfront]
    cases cs.splitOn '\n' <;> rfl

/-- **The lines of a hung text** are those of the text, all but the first set in. -/
theorem lines_hang (width : Nat) (text : String) :
    lines (hang width text) = setIn width (lines text) := by
  rw [lines, lines, toList_hang]
  induction text.toList with
  | nil => rfl
  | cons c cs ih =>
    obtain ⟨line, rest, hlines⟩ := List.exists_cons_of_ne_nil (List.splitOn_ne_nil '\n' cs)
    rw [hlines] at ih
    by_cases hc : c = '\n'
    · -- a line ends here, and the margin stands in front of the next one
      have hmargin : '\n' ∉ List.replicate width ' ' := by simp
      rw [List.flatMap_cons, if_pos hc, List.cons_append, List.splitOn_cons_eq_if_modifyHead,
        if_pos (by simp), splitOn_append hmargin, ih, List.splitOn_cons_eq_if_modifyHead,
        if_pos (by simpa using hc), hlines]
      rfl
    · have hbreak : ¬ (c == '\n') = true := by simpa using hc
      rw [List.flatMap_cons, if_neg hc, List.singleton_append, List.splitOn_cons_eq_if_modifyHead,
        if_neg hbreak, ih, List.splitOn_cons_eq_if_modifyHead, if_neg hbreak, hlines]
      rfl

/-- **A hung text is recovered**, whatever blanks and line breaks it has itself. -/
theorem unhang_hang (width : Nat) (text : String) : unhang width (hang width text) = text := by
  rw [unhang, lines_hang, setOut_setIn, lines, List.intercalate_splitOn, String.ofList_toList]

/-- Texts are told apart behind a margin. -/
theorem hang_inj {width : Nat} {s t : String} : hang width s = hang width t ↔ s = t :=
  ⟨fun h => by rw [← unhang_hang width s, h, unhang_hang], congrArg _⟩

end Text

open Text (Unseparated hang unhang)

/-! ## Registers -/

namespace Register

/-- No kind of the register is empty or has the separator inside. -/
def Separable (r : Register) : Prop := ∀ k, r.contains k = true → k ≠ "" ∧ Unseparated k

variable {r s : Register}

/-- The empty register holds nothing. -/
theorem not_contains_empty (k : String) : ¬ empty.contains k = true := Bool.false_ne_true

/-- A register without kinds is separable. -/
theorem separable_empty : empty.Separable := fun k hk => absurd hk (not_contains_empty k)

/-- An insertion keeps a register separable if the kind is neither empty nor has the separator
inside. -/
theorem Separable.insert (h : r.Separable) (kind : String) (f : Extender)
    (hkind : kind ≠ "" ∧ Unseparated kind) : (r.insert kind f).value.Separable := by
  intro k hk
  rw [contains_insert, Bool.or_eq_true, decide_eq_true_iff] at hk
  rcases hk with rfl | hk
  · exact hkind
  · exact h k hk

/-- The kinds of a separable register, one by one. -/
theorem Separable.kinds (h : r.Separable) : ∀ k ∈ r.kinds, k ≠ "" ∧ Unseparated k :=
  fun k hk => h k ((r.mem_kinds_iff k).1 hk)

/-- The text of a register tells what stands between its brackets. -/
theorem text_eq_iff_joined :
    r.text = s.text ↔ ", ".intercalate r.kinds = ", ".intercalate s.kinds := by
  unfold text
  rw [String.append_left_inj, String.append_right_inj]

/-- **The text of a separable register** tells its kinds, and nothing else. -/
theorem text_eq_iff (hr : r.Separable) (hs : s.Separable) :
    r.text = s.text ↔ ∀ k, r.contains k = s.contains k := by
  rw [text_eq_iff_joined, Text.joined_inj hr.kinds hs.kinds, kinds_eq_iff]

/-- A register lists a sequence in ascending order if it holds what is in it. -/
theorem kinds_eq_of_ascending {ks : List String} (hks : ks.Pairwise (· < ·))
    (h : ∀ k, r.contains k = true ↔ k ∈ ks) : r.kinds = ks :=
  r.ascending_kinds.eq_of_mem_iff hks fun k => (r.mem_kinds_iff k).trans (h k)

/-- A kind that consists of two with the separator in between looks like the two. -/
theorem text_of_separated {j k : String} (h : j < k) (f g e : Extender) :
    (empty.insert (j ++ ", " ++ k) e).value.text =
      ((empty.insert j f).value.insert k g).value.text := by
  have hone : (empty.insert (j ++ ", " ++ k) e).value.kinds = [j ++ ", " ++ k] :=
    kinds_eq_of_ascending (List.pairwise_singleton _ _) fun l => by
      simp [contains_insert, not_contains_empty]
  have htwo : ((empty.insert j f).value.insert k g).value.kinds = [j, k] :=
    kinds_eq_of_ascending (by simpa using h) fun l => by
      simp [contains_insert, not_contains_empty, or_comm]
  rw [text_eq_iff_joined, hone, htwo]
  rfl

end Register

/-! ## Readers -/

namespace Reader

variable {r s : Reader}

/-- The text of a reader on one line. -/
theorem compactText_eq (r : Reader) :
    r.compactText = "IrReader \x7b extenders: " ++ r.register.text ++ " \x7d" := by
  apply String.toList_inj.1
  simp [compactText, outline, Text.Outline.compact, Text.Outline.compactAll, Text.Bracket.opening,
    Text.Bracket.padding, Text.Bracket.closing]

/-- The text of a reader on several lines. -/
theorem spreadText_eq (r : Reader) :
    r.spreadText = "IrReader \x7b\n    extenders: " ++ hang 4 r.register.text ++ ",\n\x7d" := by
  have hlabel : hang 4 "extenders" = "extenders" := Text.hang_eq_self 4 (by decide)
  apply String.toList_inj.1
  simp [spreadText, outline, Text.Outline.spread, Text.Outline.spreadAll, Text.Outline.partLine,
    hlabel, Text.Bracket.opening, Text.Bracket.closing, Text.Outline.margin]

/-- The text on one line tells the text of the register. -/
theorem compactText_eq_iff : r.compactText = s.compactText ↔ r.register.text = s.register.text := by
  rw [compactText_eq, compactText_eq, String.append_left_inj, String.append_right_inj]

/-- **So does the text on several lines**, and the two texts tell the same. -/
theorem spreadText_eq_iff : r.spreadText = s.spreadText ↔ r.compactText = s.compactText := by
  rw [spreadText_eq, spreadText_eq, String.append_left_inj, String.append_right_inj, Text.hang_inj,
    compactText_eq_iff]

/-- **The texts of readers and registers.** The spread text of a reader holds the text of its
register with four blanks behind each line break, and without them it is that text again. Readers
have one spread text exactly if they have one compact text. Registers without empty kinds and
without separators inside their kinds have one text exactly if they hold the same kinds. -/
theorem texts_tell_kinds :
    (∀ r : Reader,
      r.spreadText = "IrReader \x7b\n    extenders: " ++ hang 4 r.register.text ++ ",\n\x7d" ∧
      Text.lines (hang 4 r.register.text) = Text.setIn 4 (Text.lines r.register.text) ∧
      unhang 4 (hang 4 r.register.text) = r.register.text) ∧
    (∀ r s : Reader, r.spreadText = s.spreadText ↔ r.compactText = s.compactText) ∧
    ∀ r s : Register, r.Separable → s.Separable →
      (r.text = s.text ↔ ∀ k, r.contains k = s.contains k) := by
  refine ⟨fun r => ⟨r.spreadText_eq, Text.lines_hang 4 _, Text.unhang_hang 4 _⟩, ?_, ?_⟩
  · exact fun _ _ => spreadText_eq_iff
  · exact fun _ _ hr hs => Register.text_eq_iff hr hs

/-- Kinds may end in a comma, begin with a blank, or end in a line break. -/
theorem texts_tell_kinds_edges :
    ((Register.empty.insert "a," Outcome.done).value.insert " b\n" Outcome.done).value.Separable ∧
    ((Register.empty.insert "a" Outcome.done).value.insert ",b\n" Outcome.done).value.Separable ∧
    ((Register.empty.insert "a," Outcome.done).value.insert " b\n" Outcome.done).value.text ≠
      ((Register.empty.insert "a" Outcome.done).value.insert ",b\n" Outcome.done).value.text := by
  have hr := (Register.separable_empty.insert "a," Outcome.done (by decide)).insert " b\n"
    Outcome.done (by decide)
  have hs := (Register.separable_empty.insert "a" Outcome.done (by decide)).insert ",b\n"
    Outcome.done (by decide)
  refine ⟨hr, hs, fun h => ?_⟩
  have hkinds := (texts_tell_kinds.2.2 _ _ hr hs).1 h "a"
  exact absurd hkinds (by simp [Register.contains_insert, Register.not_contains_empty])

end Reader

end OperatorIR
