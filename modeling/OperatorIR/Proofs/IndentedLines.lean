import OperatorIR.Proofs.OutlineReading

/-!
# Indented lines

A text that spans several lines is read line by line. The reader knows quoted text from the text
around it, and counts the brackets outside quotes that are still open. So it can be said of a text
alone, without knowing where it comes from, that each line is set in as far as the brackets demand,
and that lines break only where the structure does. The lines of such a text can be joined again.

## Main definitions

* `OperatorIR.Text.lines` — the lines of a text.
* `OperatorIR.Text.Position` — the brackets that are open, and whether the reader is inside quotes.
* `OperatorIR.Text.Indented` — a text with its lines set in by four blanks for each open bracket.
* `OperatorIR.Text.rejoined` — the text with its lines joined.

## Main results

* `OperatorIR.Text.Position.read_head` — a word or quoted text leaves the position as it is.
* `OperatorIR.Text.Position.read_opening`, `read_closing` — brackets count up and down.
* `OperatorIR.Text.join_opened`, `join_comma`, `join_comma_closing` — how a line is joined to the
  next one.
-/

set_option autoImplicit false

namespace OperatorIR.Text

/-! ## Lines -/

/-- The lines of a text, without the breaks between them. -/
def lines (text : String) : List (List Char) := text.toList.splitOn '\n'

/-- How many blanks a line begins with. -/
def indentation (line : List Char) : Nat := (line.takeWhile fun c => c = ' ').length

/-- The line without the blanks that it begins with. -/
def stripped (line : List Char) : List Char := line.dropWhile fun c => c = ' '

/-- A bracket that opens a group. -/
def isOpening (c : Char) : Bool := ['(', '[', '\x7b'].contains c

/-- A bracket that closes a group. -/
def isClosing (c : Char) : Bool := [')', ']', '\x7d'].contains c

/-- The line ends in an opening bracket. -/
def Opens (line : List Char) : Prop := ∃ c ∈ line.getLast?, isOpening c = true

/-- The line begins with a closing bracket, blanks apart. -/
def Closes (line : List Char) : Prop := ∃ c ∈ (stripped line).head?, isClosing c = true

/-- The line ends in a comma. -/
def Continues (line : List Char) : Prop := line.getLast? = some ','

/-- It can be decided whether a line ends in an opening bracket. -/
instance (line : List Char) : Decidable (Opens line) :=
  inferInstanceAs (Decidable (∃ c ∈ line.getLast?, isOpening c = true))

/-- It can be decided whether it begins with a closing one. -/
instance (line : List Char) : Decidable (Closes line) :=
  inferInstanceAs (Decidable (∃ c ∈ (stripped line).head?, isClosing c = true))

/-- It can be decided whether it ends in a comma. -/
instance (line : List Char) : Decidable (Continues line) :=
  inferInstanceAs (Decidable (line.getLast? = some ','))

/-! ## Reading -/

/-- Where a reader is: outside quotes, inside them, or inside behind a backslash. -/
inductive Place where
  | outside
  | quoted
  | escaped
  deriving DecidableEq

/-- What a reader keeps in mind. -/
structure Position where
  /-- Where the reader is. -/
  place : Place
  /-- How many brackets outside quotes were opened more than closed. -/
  depth : Int

namespace Position

/-- The position behind one more character. -/
def next (p : Position) (c : Char) : Position :=
  match p.place with
  | .outside =>
    if c = '"' then { p with place := .quoted }
    else if isOpening c then { p with depth := p.depth + 1 }
    else if isClosing c then { p with depth := p.depth - 1 }
    else p
  | .quoted =>
    if c = '"' then { p with place := .outside }
    else if c = '\\' then { p with place := .escaped }
    else p
  | .escaped => { p with place := .quoted }

/-- The position behind more characters. -/
def read (p : Position) (cs : List Char) : Position := cs.foldl next p

/-- How many brackets are open for the line that comes next: a bracket that the line closes at its
beginning is not. -/
def depthAt (p : Position) (line : List Char) : Int := if Closes line then p.depth - 1 else p.depth

end Position

/-- The line stands where it should behind the position, with more lines to come. -/
structure Placed (p : Position) (line : List Char) (rest : List (List Char)) : Prop where
  /-- Four blanks for each open bracket, and no more. -/
  indentation : (indentation line : Int) = 4 * p.depthAt line
  /-- No line breaks inside quotes. -/
  outside : (p.read line).place = .outside
  /-- Lines break behind an opening bracket and behind a comma. -/
  breaks : rest ≠ [] → Opens line ∨ Continues line
  /-- They do not break between brackets with nothing inside. -/
  filled : Opens line → ∀ other ∈ rest.head?, ¬ Closes other

/-- The lines stand where they should, one behind the other. In the end no bracket is open. -/
def IndentedFrom (p : Position) : List (List Char) → Prop
  | [] => p.depth = 0
  | line :: rest => Placed p line rest ∧ IndentedFrom (p.read line) rest

/-- **An indented text**: its lines stand where they should. -/
def Indented (text : String) : Prop := IndentedFrom ⟨.outside, 0⟩ (lines text)

/-! ## Joining -/

/-- What becomes of a line when another one is put behind it: nothing comes behind an opening
bracket, a comma is dropped in front of a closing bracket, and a blank comes behind any other. -/
def joint (line other : List Char) : List Char :=
  if Continues line then (if Closes other then line.dropLast else line ++ [' ']) else line

/-- Lines put one behind the other. -/
def join : List (List Char) → List Char
  | [] => []
  | [line] => line
  | line :: other :: rest => joint line other ++ join (other :: rest)

/-- The text with its lines stripped and put one behind the other. -/
def rejoined (text : String) : String := String.ofList (join ((lines text).map stripped))

/-! ## Stripped lines -/

/-- The text begins, and neither with a blank nor with a closing bracket. -/
def Begins (cs : List Char) : Prop := ∃ c ds, cs = c :: ds ∧ c ≠ ' ' ∧ isClosing c = false

/-- It still does with more behind it. -/
theorem Begins.append {cs : List Char} (h : Begins cs) (ds : List Char) : Begins (cs ++ ds) := by
  obtain ⟨c, es, rfl, hblank, hclosing⟩ := h
  exact ⟨c, es ++ ds, rfl, hblank, hclosing⟩

/-- The characters of a word are no quotes, blanks or brackets. -/
theorem IsWord.plain {text : String} (h : IsWord text) {c : Char} (hc : c ∈ text.toList) :
    c ≠ '"' ∧ c ≠ ' ' ∧ isOpening c = false ∧ isClosing c = false := by
  have hword : ¬ isDelimiter c = true := by simpa using List.all_eq_true.1 h c hc
  have hopenings : ['(', '[', '\x7b'].all isDelimiter = true := rfl
  have hclosings : [')', ']', '\x7d'].all isDelimiter = true := rfl
  refine ⟨?_, ?_, ?_, ?_⟩
  · rintro rfl
    exact hword rfl
  · rintro rfl
    exact hword rfl
  · refine Bool.eq_false_iff.2 fun hopening => hword ?_
    exact List.all_eq_true.1 hopenings c (List.contains_iff_mem.1 hopening)
  · refine Bool.eq_false_iff.2 fun hclosing => hword ?_
    exact List.all_eq_true.1 hclosings c (List.contains_iff_mem.1 hclosing)

/-- A word or quoted text begins so, if there is any. -/
theorem IsHead.begins {text : String} (h : IsHead text) (hne : text.toList ≠ []) :
    Begins text.toList := by
  rcases h with hword | ⟨s, rfl⟩
  · obtain ⟨c, cs, hcs⟩ := List.exists_cons_of_ne_nil hne
    obtain ⟨-, hblank, -, hclosing⟩ := hword.plain (by rw [hcs]; exact List.mem_cons_self)
    exact ⟨c, cs, hcs, hblank, hclosing⟩
  · rw [toList_quoted]
    exact ⟨'"', _, rfl, by decide, by decide⟩

section Blanks

variable {cs : List Char} (n : Nat)

/-- The blanks in front of a line are counted. -/
theorem indentation_blanks (h : cs.head? ≠ some ' ') :
    indentation (List.replicate n ' ' ++ cs) = n := by
  rw [indentation, List.takeWhile_append_of_pos (by simp)]
  cases cs with
  | nil => simp
  | cons c cs =>
    have hc : c ≠ ' ' := fun hc => h (congrArg some hc)
    simp [hc]

/-- They are stripped off. -/
theorem stripped_blanks (h : cs.head? ≠ some ' ') : stripped (List.replicate n ' ' ++ cs) = cs := by
  rw [stripped, List.dropWhile_append_of_pos (by simp)]
  cases cs with
  | nil => rfl
  | cons c cs =>
    have hc : c ≠ ' ' := fun hc => h (congrArg some hc)
    simp [hc]

end Blanks

/-- A line that begins so closes nothing. -/
theorem Begins.not_closes {cs : List Char} (h : Begins cs) (n : Nat) :
    ¬ Closes (List.replicate n ' ' ++ cs) := by
  obtain ⟨c, ds, rfl, hblank, hclosing⟩ := h
  rintro ⟨d, hd, hd'⟩
  rw [stripped_blanks n (by simpa using hblank)] at hd
  obtain rfl : c = d := Option.some.inj hd
  rw [hclosing] at hd'
  exact absurd hd' (by decide)

/-! ## Joined lines -/

/-- A line that opens a bracket is joined as it is. -/
theorem join_opened {line : List Char} (h : Opens line) (rest : List (List Char)) :
    join (line :: rest) = line ++ join rest := by
  have hn : ¬ Continues line := by
    obtain ⟨c, hc, hopening⟩ := h
    intro hcomma
    obtain rfl : ',' = c := Option.some.inj (hcomma.symm.trans hc)
    exact absurd hopening (by decide)
  cases rest with
  | nil => exact (List.append_nil line).symm
  | cons other rest => rw [join, joint, if_neg hn]

/-- A comma is dropped in front of a closing bracket. -/
theorem join_comma_closing (line : List Char) {other : List Char} (h : Closes other)
    (rest : List (List Char)) :
    join ((line ++ [',']) :: other :: rest) = line ++ join (other :: rest) := by
  have hcomma : Continues (line ++ [',']) := List.getLast?_concat
  rw [join, joint, if_pos hcomma, if_pos h, List.dropLast_concat]

/-- Any other comma gets a blank. -/
theorem join_comma (line : List Char) {other : List Char} (h : ¬ Closes other)
    (rest : List (List Char)) :
    join ((line ++ [',']) :: other :: rest) = line ++ ',' :: ' ' :: join (other :: rest) := by
  have hcomma : Continues (line ++ [',']) := List.getLast?_concat
  rw [join, joint, if_pos hcomma, if_neg h]
  simp

/-! ## What is read -/

namespace Position

variable (depth : Int)

/-- Reading on. -/
theorem read_append (p : Position) (cs ds : List Char) :
    p.read (cs ++ ds) = (p.read cs).read ds := List.foldl_append

/-- Outside quotes, characters that are neither quotes nor brackets leave the position as it is. -/
theorem read_plain {cs : List Char}
    (h : ∀ c ∈ cs, c ≠ '"' ∧ isOpening c = false ∧ isClosing c = false) :
    read ⟨.outside, depth⟩ cs = ⟨.outside, depth⟩ := by
  induction cs with
  | nil => rfl
  | cons c cs ih =>
    obtain ⟨hquote, hopening, hclosing⟩ := h c List.mem_cons_self
    have hnext : next ⟨.outside, depth⟩ c = ⟨.outside, depth⟩ := by
      simp [next, hquote, hopening, hclosing]
    calc read ⟨.outside, depth⟩ (c :: cs)
      _ = (next ⟨.outside, depth⟩ c).read cs := rfl
      _ = read ⟨.outside, depth⟩ cs := by rw [hnext]
      _ = ⟨.outside, depth⟩ := ih fun d hd => h d (List.mem_cons_of_mem _ hd)

/-- Inside quotes, characters that are neither quotes nor backslashes do. -/
theorem read_inside {cs : List Char} (h : ∀ c ∈ cs, c ≠ '"' ∧ c ≠ '\\') :
    read ⟨.quoted, depth⟩ cs = ⟨.quoted, depth⟩ := by
  induction cs with
  | nil => rfl
  | cons c cs ih =>
    obtain ⟨hquote, hbackslash⟩ := h c List.mem_cons_self
    have hnext : next ⟨.quoted, depth⟩ c = ⟨.quoted, depth⟩ := by
      simp [next, hquote, hbackslash]
    calc read ⟨.quoted, depth⟩ (c :: cs)
      _ = (next ⟨.quoted, depth⟩ c).read cs := rfl
      _ = read ⟨.quoted, depth⟩ cs := by rw [hnext]
      _ = ⟨.quoted, depth⟩ := ih fun d hd => h d (List.mem_cons_of_mem _ hd)

/-- The blanks in front of a line. -/
theorem read_blanks (n : Nat) :
    read ⟨.outside, depth⟩ (List.replicate n ' ') = ⟨.outside, depth⟩ := by
  refine read_plain depth fun c hc => ?_
  rw [List.eq_of_mem_replicate hc]
  decide

/-- The written form of a character does not end the quotes. -/
theorem read_escapeChar (c : Char) :
    read ⟨.quoted, depth⟩ (escapeChar c) = ⟨.quoted, depth⟩ := by
  have hhex : ['0', '1', '2', '3', '4', '5', '6', '7', '8', '9', 'a', 'b', 'c', 'd', 'e', 'f'].all
      (fun d => d ≠ '"' ∧ d ≠ '\\') = true := rfl
  rcases escapeChar_cases c with ⟨name, -, hc⟩ | hc | ⟨hquote, hbackslash, hc⟩
  · rw [hc]
    rfl
  · rw [hc, numbered, List.append_assoc, read_append]
    -- behind the backslash and the letter the reader is inside quotes again
    refine read_inside depth fun d hd => ?_
    rcases List.mem_append.1 hd with hd | hd
    · exact of_decide_eq_true (List.all_eq_true.1 hhex d (mem_hexDigits hd))
    · rw [List.mem_singleton.1 hd]
      decide
  · rw [hc]
    refine read_inside depth fun d hd => ?_
    rw [List.mem_singleton.1 hd]
    exact ⟨hquote, hbackslash⟩

/-- Quoted text is left behind, whatever it holds. -/
theorem read_quoted (s : String) :
    read ⟨.outside, depth⟩ (quoted s).toList = ⟨.outside, depth⟩ := by
  have hinside : ∀ cs, read ⟨.quoted, depth⟩ (escape cs) = ⟨.quoted, depth⟩ := by
    intro cs
    induction cs with
    | nil => rfl
    | cons c cs ih => rw [escape_cons, read_append, read_escapeChar, ih]
  calc read ⟨.outside, depth⟩ (quoted s).toList
    _ = read ⟨.quoted, depth⟩ (escape s.toList ++ ['"']) := by rw [toList_quoted]; rfl
    _ = read ⟨.quoted, depth⟩ ['"'] := by rw [read_append, hinside]
    _ = ⟨.outside, depth⟩ := rfl

/-- **A word or quoted text** leaves the position as it is. -/
theorem read_head {text : String} (h : IsHead text) :
    read ⟨.outside, depth⟩ text.toList = ⟨.outside, depth⟩ := by
  rcases h with hword | ⟨s, rfl⟩
  · refine read_plain depth fun c hc => ?_
    obtain ⟨hquote, -, hopening, hclosing⟩ := hword.plain hc
    exact ⟨hquote, hopening, hclosing⟩
  · exact read_quoted depth s

/-- The opening text of a group. -/
theorem read_opening (b : Bracket) :
    read ⟨.outside, depth⟩ b.opening.toList = ⟨.outside, depth + 1⟩ := by
  cases b <;> rfl

/-- The closing text of a group. -/
theorem read_closing (b : Bracket) :
    read ⟨.outside, depth⟩ b.closing.toList = ⟨.outside, depth - 1⟩ := by
  cases b <;> rfl

end Position

end OperatorIR.Text
