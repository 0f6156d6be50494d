import OperatorIR.Proofs.CompactText
import OperatorIR.Proofs.IndentedLines
import OperatorIR.Proofs.OneLine

/-!
# Spread outlines

The spread text of an outline is its compact text on several lines. Since texts, labels and names
have no line breaks, the lines are those of the layout: a line where a group opens, the lines of its
parts one level further in, and a line where it closes. A reader who sees only the text finds each
line set in as far as the open brackets demand, and gets the compact text back by joining the lines.

## Main definitions

* `OperatorIR.Text.Outline.layout` — the lines of an outline.
* `OperatorIR.Text.Outline.Laid` — what the lines of an outline keep to.

## Main results

* `OperatorIR.Text.Outline.Snug.laid` — the lines of readable and snug outlines keep to it.
* `OperatorIR.Node.spreadText_agrees` — the spread texts of values and of nodes.

## Design

An outline seldom has its lines for itself: a label may stand in front of its first line, and a
comma behind its last. The layout takes both as arguments, and what is shown by induction is shown
with all that can stand there, and with more lines behind.
-/

set_option autoImplicit false

namespace OperatorIR

namespace Text

/-- The text that closes a group does not begin with a blank. -/
theorem Bracket.head?_closing_ne (b : Bracket) (behind : List Char) :
    (b.closing.toList ++ behind).head? ≠ some ' ' := by
  cases b <;> simp [Bracket.closing]

namespace Outline

/-! ## The lines of an outline -/

/-- A line at the given depth. -/
def line (depth : Nat) (content : List Char) : List Char :=
  List.replicate (margin depth) ' ' ++ content

mutual

/-- The lines of an outline at the given depth, with text before the first and behind the last. -/
def layout (depth : Nat) (before behind : List Char) : Outline → List (List Char)
  | leaf text => [line depth (before ++ text.toList ++ behind)]
  | labelled label part => layout depth (before ++ label.toList ++ [':', ' ']) behind part
  | group name b [] =>
    [line depth (before ++ (name.toList ++ b.opening.toList) ++ b.closing.toList ++ behind)]
  | group name b (part :: parts) =>
    line depth (before ++ (name.toList ++ b.opening.toList)) ::
      (layout (depth + 1) [] [','] part ++ layoutAll (depth + 1) parts
        ++ [line depth (b.closing.toList ++ behind)])

/-- The lines of the parts of a group, each with a comma behind the last. -/
def layoutAll (depth : Nat) : List Outline → List (List Char)
  | [] => []
  | part :: parts => layout depth [] [','] part ++ layoutAll depth parts

end

/-- What can stand in front of an outline on its first line: nothing, or labels. -/
structure Lead (before : List Char) : Prop where
  begins : before = [] ∨ Begins before
  read : ∀ depth : Int, Position.read ⟨.outside, depth⟩ before = ⟨.outside, depth⟩
  oneLine : '\n' ∉ before

/-- What can stand behind an outline on its last line: a comma, or nothing if no lines follow. -/
def Trail (behind : List Char) (rest : List (List Char)) : Prop :=
  behind = [','] ∨ behind = [] ∧ rest = []

/-- **What the lines of an outline keep to**, whatever stands around them. -/
structure Laid (o : Outline) : Prop where
  /-- They are the lines of the spread text. -/
  splits : ∀ (d : Nat) (before behind more : List Char), Lead before → '\n' ∉ behind →
    (line d (before ++ (o.spread d).toList ++ behind) ++ '\n' :: more).splitOn '\n' =
      layout d before behind o ++ more.splitOn '\n'
  /-- The first one begins with the outline, and not with a bracket that closes. -/
  leads : ∀ (d : Nat) (before behind : List Char), Lead before →
    ∃ content rest, layout d before behind o = line d content :: rest ∧ Begins content
  /-- Joined together they are the compact text. -/
  joins : ∀ (d : Nat) (before behind after : List Char) (rest : List (List Char)), Lead before →
    (∀ cs, join ((cs ++ behind) :: rest) = cs ++ after) →
    join ((layout d before behind o).map stripped ++ rest) = before ++ o.compact.toList ++ after
  /-- They stand where they should, and all brackets are closed behind them. -/
  indents : ∀ (d : Nat) (before behind : List Char) (rest : List (List Char)), Lead before →
    Trail behind rest → IndentedFrom ⟨.outside, d⟩ rest →
    IndentedFrom ⟨.outside, d⟩ (layout d before behind o ++ rest)

/-! ## What stands around -/

namespace Lead

variable {before : List Char}

/-- With nothing in front a line begins with the outline itself. -/
theorem nil : Lead [] := ⟨Or.inl rfl, fun _ => rfl, List.not_mem_nil⟩

/-- A line that goes on begins as it should. -/
theorem begins_append (h : Lead before) {cs : List Char} (hcs : Begins cs) :
    Begins (before ++ cs) := by
  rcases h.begins with rfl | hbefore
  · exact hcs
  · exact hbefore.append cs

/-- One more label. -/
theorem label (h : Lead before) {text : String} (hhead : IsHead text) (hline : OneLine text) :
    Lead (before ++ text.toList ++ [':', ' ']) where
  begins := by
    refine Or.inr ?_
    rw [List.append_assoc]
    refine h.begins_append ?_
    by_cases hne : text.toList = []
    · rw [hne]
      exact ⟨':', [' '], rfl, by decide, by decide⟩
    · exact (hhead.begins hne).append _
  read := by
    intro depth
    rw [Position.read_append, Position.read_append, h.read, Position.read_head depth hhead]
    rfl
  oneLine := by
    simp only [List.mem_append, not_or]
    exact ⟨⟨h.oneLine, hline⟩, by decide⟩

end Lead

/-- The end of a line does not change the position. -/
theorem Trail.read {behind : List Char} {rest : List (List Char)} (h : Trail behind rest)
    (depth : Int) : Position.read ⟨.outside, depth⟩ behind = ⟨.outside, depth⟩ := by
  rcases h with rfl | ⟨rfl, -⟩ <;> rfl

/-! ## The text of the lines -/

/-- The margin of a line does not break it. -/
theorem newline_not_mem_line (d : Nat) {content : List Char} (h : '\n' ∉ content) :
    '\n' ∉ line d content := by
  simp [line, h]

/-- A line ends at the first break. -/
theorem splitOn_line (d : Nat) {content : List Char} (h : '\n' ∉ content) (more : List Char) :
    (line d content ++ '\n' :: more).splitOn '\n' = line d content :: more.splitOn '\n' :=
  List.splitOn_append_cons_self_of_not_mem (newline_not_mem_line d h) more

/-- The lines of the parts of a group. -/
theorem splitOn_parts (d : Nat) {parts : List Outline} (hp : ∀ part ∈ parts, Laid part)
    (more : List Char) :
    ((String.join (spreadAll d parts)).toList ++ more).splitOn '\n' =
      layoutAll d parts ++ more.splitOn '\n' := by
  induction parts with
  | nil => rfl
  | cons part parts ih =>
    have hpart := (hp part List.mem_cons_self).splits d [] [',']
      ((String.join (spreadAll d parts)).toList ++ more) .nil (by decide)
    have hchars : (String.join (spreadAll d (part :: parts))).toList ++ more =
        line d ([] ++ (part.spread d).toList ++ [',']) ++
          '\n' :: ((String.join (spreadAll d parts)).toList ++ more) := by
      simp [spreadAll, partLine, line]
    rw [hchars, hpart, ih fun p h => hp p (List.mem_cons_of_mem _ h), layoutAll, List.append_assoc]

/-- The lines of a group. -/
theorem splits_group {name : String} (hname : OneLine name) (b : Bracket) {parts : List Outline}
    (hp : ∀ part ∈ parts, Laid part) (d : Nat) (before behind more : List Char)
    (hbefore : Lead before) (hbehind : '\n' ∉ behind) :
    (line d (before ++ ((group name b parts).spread d).toList ++ behind) ++ '\n' :: more).splitOn
        '\n' =
      layout d before behind (group name b parts) ++ more.splitOn '\n' := by
  have hopening : '\n' ∉ b.opening.toList := b.oneLine_opening
  have hclosing : '\n' ∉ b.closing.toList := b.oneLine_closing
  have hfirst : '\n' ∉ before ++ (name.toList ++ b.opening.toList) := by
    simp only [List.mem_append, not_or]
    exact ⟨hbefore.oneLine, hname, hopening⟩
  have hlast : '\n' ∉ b.closing.toList ++ behind := by
    simp only [List.mem_append, not_or]
    exact ⟨hclosing, hbehind⟩
  cases parts with
  | nil =>
    have hall : '\n' ∉
        before ++ (name.toList ++ b.opening.toList) ++ (b.closing.toList ++ behind) := by
      rw [List.mem_append, not_or]
      exact ⟨hfirst, hlast⟩
    have hone := splitOn_line d hall more
    simpa [spread, layout] using hone
  | cons part parts =>
    have hchars :
        line d (before ++ ((group name b (part :: parts)).spread d).toList ++ behind) ++
            '\n' :: more =
          line d (before ++ (name.toList ++ b.opening.toList)) ++ '\n' ::
            ((String.join (spreadAll (d + 1) (part :: parts))).toList ++
              (line d (b.closing.toList ++ behind) ++ '\n' :: more)) := by
      simp [spread, spreadAll, line]
    rw [hchars, splitOn_line d hfirst, splitOn_parts (d + 1) hp, splitOn_line d hlast, layout,
      layoutAll]
    simp

/-! ## The first line -/

/-- A group begins with its name, or with its bracket. -/
theorem leads_group {name : String} {b : Bracket} (hn : Begins (name.toList ++ b.opening.toList))
    (parts : List Outline) (d : Nat) (before behind : List Char) (hbefore : Lead before) :
    ∃ content rest, layout d before behind (group name b parts) = line d content :: rest ∧
      Begins content := by
  cases parts with
  | nil =>
    rw [layout]
    exact ⟨_, _, rfl, ((hbefore.begins_append hn).append _).append _⟩
  | cons part parts =>
    rw [layout]
    exact ⟨_, _, rfl, hbefore.begins_append hn⟩

/-! ## The lines joined -/

/-- A line that begins as it should is stripped of its margin. -/
theorem stripped_line (d : Nat) {content : List Char} (h : Begins content) :
    stripped (line d content) = content := by
  obtain ⟨c, cs, rfl, hblank, -⟩ := h
  exact stripped_blanks (margin d) (by simpa using hblank)

/-- A line that closes a group is stripped of its margin. -/
theorem stripped_closing (d : Nat) (b : Bracket) (behind : List Char) :
    stripped (line d (b.closing.toList ++ behind)) = b.closing.toList ++ behind :=
  stripped_blanks (margin d) (b.head?_closing_ne behind)

/-- A line that begins with the closing text of a group closes it, at any depth. -/
theorem closes_closing (n : Nat) (b : Bracket) (behind : List Char) :
    Closes (List.replicate n ' ' ++ (b.closing.toList ++ behind)) := by
  rw [Closes, stripped_blanks n (b.head?_closing_ne behind)]
  cases b <;> exact ⟨_, rfl, rfl⟩

/-- A line that ends with the opening text of a group. -/
theorem opens_opening (cs : List Char) (b : Bracket) : Opens (cs ++ b.opening.toList) := by
  cases b <;> exact ⟨_, List.mem_getLast?_append_of_mem_getLast? rfl, rfl⟩

/-- The parts of a group on one line, without the blanks inside its brackets. -/
def listed : List Outline → List Char
  | [] => []
  | part :: parts => part.compact.toList ++ following parts

/-- The compact text of a group without such blanks. -/
theorem toList_compact_group {b : Bracket} (hb : b ≠ .record) (name : String)
    (parts : List Outline) :
    (group name b parts).compact.toList =
      name.toList ++ b.opening.toList ++ listed parts ++ b.closing.toList := by
  have hpadding : b.padding = "" := by
    cases b <;> first | rfl | exact absurd rfl hb
  rw [toList_compact]
  cases parts <;> simp [head, tail, inside, listed, Bracket.endOf, hpadding]

/-- The compact text of a record has them. -/
theorem toList_compact_record (name : String) (part : Outline) (parts : List Outline) :
    (group name .record (part :: parts)).compact.toList =
      name.toList ++ [' ', '\x7b', ' '] ++ listed (part :: parts) ++ [' ', '\x7d'] := by
  rw [toList_compact]
  simp [head, tail, inside, listed, Bracket.endOf, Bracket.padding, Bracket.opening,
    Bracket.closing]

/-- The lines of the parts of a group are joined by commas and blanks, and the last one by nothing
to the line that closes the group. -/
theorem join_parts (d : Nat) {part : Outline} {parts : List Outline}
    (hp : ∀ p ∈ part :: parts, Laid p) {last : List Char} (hlast : Closes last)
    (rest : List (List Char)) :
    join ((layoutAll d (part :: parts)).map stripped ++ last :: rest) =
      listed (part :: parts) ++ join (last :: rest) := by
  have hpart := hp part List.mem_cons_self
  induction parts generalizing part with
  | nil =>
    have hjoin := hpart.joins d [] [','] _ _ .nil fun cs => join_comma_closing cs hlast rest
    simpa [layoutAll, listed, following] using hjoin
  | cons other parts ih =>
    have hother := hp other (List.mem_cons_of_mem _ List.mem_cons_self)
    obtain ⟨content, ls, hlayout, hcontent⟩ := hother.leads d [] [','] .nil
    have hfirst : (layoutAll d (other :: parts)).map stripped ++ last :: rest =
        content :: ((ls ++ layoutAll d parts).map stripped ++ last :: rest) := by
      rw [layoutAll, hlayout, List.cons_append, List.map_cons, stripped_line d hcontent,
        List.cons_append]
    have hjoin := hpart.joins d [] [','] _ _ .nil fun cs =>
      join_comma cs (hcontent.not_closes 0) ((ls ++ layoutAll d parts).map stripped ++ last :: rest)
    have hmore := ih (fun p h => hp p (List.mem_cons_of_mem _ h)) hother
    rw [List.replicate_zero, List.nil_append, ← hfirst, hmore] at hjoin
    rw [layoutAll, List.map_append, List.append_assoc, hjoin]
    simp [listed, following]

/-- The lines of a group joined. -/
theorem joins_group {name : String} {b : Bracket} (hn : Begins (name.toList ++ b.opening.toList))
    {parts : List Outline} (hp : ∀ part ∈ parts, Laid part) (d : Nat)
    (before behind after : List Char) (rest : List (List Char)) (hbefore : Lead before)
    (hafter : ∀ cs, join ((cs ++ behind) :: rest) = cs ++ after) :
    join ((layout d before behind (group name b parts)).map stripped ++ rest) =
      before ++ (name.toList ++ b.opening.toList ++ listed parts ++ b.closing.toList) ++ after := by
  have hfirst := hbefore.begins_append hn
  cases parts with
  | nil =>
    have hline :
        Begins (before ++ (name.toList ++ b.opening.toList) ++ b.closing.toList ++ behind) :=
      (hfirst.append _).append _
    rw [layout, List.map_singleton, stripped_line d hline, List.singleton_append, hafter]
    simp [listed]
  | cons part parts =>
    have hopens : Opens (before ++ (name.toList ++ b.opening.toList)) := by
      rw [← List.append_assoc]
      exact opens_opening _ b
    have hcloses : Closes (b.closing.toList ++ behind) := closes_closing 0 b behind
    have hlines : (layout d before behind (group name b (part :: parts))).map stripped ++ rest =
        (before ++ (name.toList ++ b.opening.toList)) ::
          ((layoutAll (d + 1) (part :: parts)).map stripped ++
            (b.closing.toList ++ behind) :: rest) := by
      rw [layout, List.map_cons, stripped_line d hfirst, layoutAll]
      simp [stripped_closing]
    rw [hlines, join_opened hopens, join_parts (d + 1) hp hcloses, hafter]
    simp

/-! ## The position of the lines -/

/-- The margin of a line does not change the position. -/
theorem read_line (d : Nat) (depth : Int) (content : List Char) :
    Position.read ⟨.outside, depth⟩ (line d content) = Position.read ⟨.outside, depth⟩ content := by
  rw [line, Position.read_append, Position.read_blanks]

/-- A line of its depth that begins as it should. -/
theorem indentation_line (d : Nat) {content : List Char} (h : Begins content) :
    (indentation (line d content) : Int) = 4 * Position.depthAt ⟨.outside, d⟩ (line d content) := by
  obtain ⟨c, cs, hcs, hblank, -⟩ := id h
  have hhead : content.head? ≠ some ' ' := by simpa [hcs] using hblank
  rw [line, indentation_blanks (margin d) hhead, Position.depthAt, if_neg (h.not_closes _), margin]
  exact Int.natCast_mul 4 d

/-- A line that closes a group stands with the line that opens it. -/
theorem indentation_closing (d : Nat) (b : Bracket) (behind : List Char) :
    (indentation (line d (b.closing.toList ++ behind)) : Int) =
      4 * Position.depthAt ⟨.outside, d + 1⟩ (line d (b.closing.toList ++ behind)) := by
  rw [line, indentation_blanks (margin d) (b.head?_closing_ne behind), Position.depthAt,
    if_pos (closes_closing _ b behind), margin]
  push_cast
  ring

namespace Trail

variable {behind : List Char} {rest : List (List Char)}

/-- A line ends in a comma if more lines come. -/
theorem breaks (h : Trail behind rest) (cs : List Char) (hrest : rest ≠ []) :
    Opens (cs ++ behind) ∨ Continues (cs ++ behind) := by
  rcases h with rfl | ⟨-, hnil⟩
  · exact Or.inr List.getLast?_concat
  · exact absurd hnil hrest

/-- It does not open a bracket then. -/
theorem filled (h : Trail behind rest) (cs : List Char) (hopens : Opens (cs ++ behind)) :
    ∀ other ∈ rest.head?, ¬ Closes other := by
  rcases h with rfl | ⟨-, rfl⟩
  · obtain ⟨c, hc, hopening⟩ := hopens
    obtain rfl : ',' = c := Option.some.inj (List.getLast?_concat.symm.trans hc)
    exact absurd hopening (by decide)
  · exact nofun

end Trail

/-- A line that begins and ends as it should, and leaves no bracket open. -/
theorem indentedFrom_line (d : Nat) {content behind : List Char} {rest : List (List Char)}
    (hcontent : Begins content) (hbehind : Trail behind rest)
    (hread : Position.read ⟨.outside, d⟩ content = ⟨.outside, d⟩)
    (hrest : IndentedFrom ⟨.outside, d⟩ rest) :
    IndentedFrom ⟨.outside, d⟩ (line d (content ++ behind) :: rest) := by
  have hline : Position.read ⟨.outside, d⟩ (line d (content ++ behind)) = ⟨.outside, d⟩ := by
    rw [read_line, Position.read_append, hread, hbehind.read]
  refine ⟨⟨indentation_line d (hcontent.append behind), ?_, ?_, ?_⟩, ?_⟩
  · rw [hline]
  · rw [line, ← List.append_assoc]
    exact hbehind.breaks _
  · rw [line, ← List.append_assoc]
    exact hbehind.filled _
  · rw [hline]
    exact hrest

/-- The line that closes a group. -/
theorem indentedFrom_closing (d : Nat) (b : Bracket) {behind : List Char} {rest : List (List Char)}
    (hbehind : Trail behind rest) (hrest : IndentedFrom ⟨.outside, d⟩ rest) :
    IndentedFrom ⟨.outside, (d + 1 : Nat)⟩ (line d (b.closing.toList ++ behind) :: rest) := by
  have hline : Position.read ⟨.outside, (d + 1 : Nat)⟩ (line d (b.closing.toList ++ behind)) =
      ⟨.outside, d⟩ := by
    rw [read_line, Position.read_append, Position.read_closing, hbehind.read]
    simp
  refine ⟨⟨indentation_closing d b behind, ?_, ?_, ?_⟩, ?_⟩
  · rw [hline]
  · rw [line, ← List.append_assoc]
    exact hbehind.breaks _
  · rw [line, ← List.append_assoc]
    exact hbehind.filled _
  · rw [hline]
    exact hrest

/-- The lines of the parts of a group. -/
theorem indentedFrom_parts (d : Nat) {parts : List Outline} (hp : ∀ part ∈ parts, Laid part)
    {rest : List (List Char)} (hrest : IndentedFrom ⟨.outside, d⟩ rest) :
    IndentedFrom ⟨.outside, d⟩ (layoutAll d parts ++ rest) := by
  induction parts with
  | nil => exact hrest
  | cons part parts ih =>
    rw [layoutAll, List.append_assoc]
    exact (hp part List.mem_cons_self).indents d [] [','] _ .nil (Or.inl rfl)
      (ih fun p h => hp p (List.mem_cons_of_mem _ h))

/-- The lines of a group. -/
theorem indents_group {name : String} (hname : IsWord name) {b : Bracket}
    (hn : Begins (name.toList ++ b.opening.toList)) {parts : List Outline}
    (hp : ∀ part ∈ parts, Laid part) (d : Nat) (before behind : List Char)
    (rest : List (List Char)) (hbefore : Lead before) (hbehind : Trail behind rest)
    (hrest : IndentedFrom ⟨.outside, d⟩ rest) :
    IndentedFrom ⟨.outside, d⟩ (layout d before behind (group name b parts) ++ rest) := by
  have hfirst := hbefore.begins_append hn
  have hread : Position.read ⟨.outside, d⟩ (before ++ (name.toList ++ b.opening.toList)) =
      ⟨.outside, (d + 1 : Nat)⟩ := by
    rw [Position.read_append, Position.read_append, hbefore.read,
      Position.read_head d (Or.inl hname), Position.read_opening]
    rfl
  cases parts with
  | nil =>
    rw [layout]
    refine indentedFrom_line d (hfirst.append _) hbehind ?_ hrest
    rw [Position.read_append, hread, Position.read_closing]
    simp
  | cons part parts =>
    have hlines : layout d before behind (group name b (part :: parts)) ++ rest =
        line d (before ++ (name.toList ++ b.opening.toList)) ::
          (layoutAll (d + 1) (part :: parts) ++ line d (b.closing.toList ++ behind) :: rest) := by
      simp [layout, layoutAll]
    have hline :
        Position.read ⟨.outside, d⟩ (line d (before ++ (name.toList ++ b.opening.toList))) =
          ⟨.outside, (d + 1 : Nat)⟩ := by
      rw [read_line, hread]
    have hopens : Opens (line d (before ++ (name.toList ++ b.opening.toList))) := by
      rw [line, ← List.append_assoc, ← List.append_assoc]
      exact opens_opening _ b
    obtain ⟨content, ls, hlayout, hcontent⟩ :=
      (hp part List.mem_cons_self).leads (d + 1) [] [','] .nil
    rw [hlines]
    refine ⟨⟨indentation_line d hfirst, ?_, fun _ => Or.inl hopens, fun _ other hother => ?_⟩, ?_⟩
    · rw [hline]
    · -- the next line is the first one of the first part
      rw [layoutAll, hlayout] at hother
      obtain rfl := Option.some.inj hother
      exact hcontent.not_closes _
    · rw [hline]
      exact indentedFrom_parts (d + 1) hp (indentedFrom_closing d b hbehind hrest)

/-! ## Readable outlines -/

/-- A leaf has one line. -/
theorem laid_leaf {text : String} (hhead : IsHead text) (hne : text.toList ≠ [])
    (hline : OneLine text) : Laid (leaf text) where
  splits := by
    intro d before behind more hbefore hbehind
    have hall : '\n' ∉ before ++ text.toList ++ behind := by
      simp only [List.mem_append, not_or]
      exact ⟨⟨hbefore.oneLine, hline⟩, hbehind⟩
    rw [spread, hang_eq_self _ hline, splitOn_line d hall]
    rfl
  leads := by
    intro d before behind hbefore
    exact ⟨_, _, rfl, (hbefore.begins_append (hhead.begins hne)).append behind⟩
  joins := by
    intro d before behind after rest hbefore hafter
    have hcontent := (hbefore.begins_append (hhead.begins hne)).append behind
    rw [layout, List.map_singleton, stripped_line d hcontent, List.singleton_append, hafter,
      compact]
  indents := by
    intro d before behind rest hbefore hbehind hrest
    refine indentedFrom_line d (hbefore.begins_append (hhead.begins hne)) hbehind ?_ hrest
    rw [Position.read_append, hbefore.read, Position.read_head d hhead]

/-- A label stands in front of the first line of its part. -/
theorem laid_labelled {label : String} {part : Outline} (hhead : IsHead label)
    (hline : OneLine label) (hp : Laid part) : Laid (labelled label part) where
  splits := by
    intro d before behind more hbefore hbehind
    have hchars : before ++ ((labelled label part).spread d).toList ++ behind =
        before ++ label.toList ++ [':', ' '] ++ (part.spread d).toList ++ behind := by
      simp [spread, hang_eq_self _ hline]
    rw [hchars, hp.splits d _ behind more (hbefore.label hhead hline) hbehind, layout]
  leads := by
    intro d before behind hbefore
    rw [layout]
    exact hp.leads d _ behind (hbefore.label hhead hline)
  joins := by
    intro d before behind after rest hbefore hafter
    rw [layout, hp.joins d _ behind after rest (hbefore.label hhead hline) hafter]
    simp [compact]
  indents := by
    intro d before behind rest hbefore hbehind hrest
    rw [layout]
    exact hp.indents d _ behind rest (hbefore.label hhead hline) hbehind hrest

/-- A group without a record's blanks begins with its name or its bracket. -/
theorem begins_group {name : String} (hname : IsWord name) {b : Bracket} (hb : b ≠ .record) :
    Begins (name.toList ++ b.opening.toList) := by
  by_cases hne : name.toList = []
  · rw [hne]
    cases b with
    | record => exact absurd rfl hb
    | _ => exact ⟨_, [], rfl, by decide, by decide⟩
  · exact (IsHead.begins (Or.inl hname) hne).append _

/-- **The lines of readable and snug outlines** are as they should be, whatever stands around. -/
theorem Snug.laid {o : Outline} (hs : Snug o) (hr : Readable o) : Laid o := by
  induction hs with
  | leaf hline =>
    cases hr with
    | leaf hhead hne => exact laid_leaf hhead hne hline
  | labelled hline hpart ih =>
    cases hr with
    | labelled hhead hread => exact laid_labelled hhead hline (ih hread)
  | @group name b parts hline hb hparts ih =>
    cases hr with
    | group hname hread =>
      have hn := begins_group hname hb
      have hlaid : ∀ part ∈ parts, Laid part := fun part hmem => ih part hmem (hread part hmem)
      refine ⟨splits_group hline b hlaid, leads_group hn parts, ?_, indents_group hname hn hlaid⟩
      intro d before behind after rest hbefore hafter
      rw [joins_group hn hlaid d before behind after rest hbefore hafter,
        toList_compact_group hb]

/-! ## Outlines with nothing around them -/

/-- The lines of a spread text with nothing around it. -/
theorem lines_spread {o : Outline}
    (h : (line 0 ([] ++ (o.spread 0).toList ++ []) ++ ['\n']).splitOn '\n' =
      layout 0 [] [] o ++ [].splitOn '\n') :
    lines (o.spread 0) = layout 0 [] [] o := by
  rw [List.splitOn_append_cons_self, List.append_left_inj] at h
  simpa [lines, line, margin] using h

/-- Such a text is indented if its lines are. -/
theorem indented_spread {o : Outline} (hlines : lines (o.spread 0) = layout 0 [] [] o)
    (h : IndentedFrom ⟨.outside, 0⟩ (layout 0 [] [] o ++ [])) : Indented (o.spread 0) := by
  rw [List.append_nil] at h
  rw [Indented, hlines]
  exact h

/-- A line with nothing behind it is the last one. -/
theorem join_last (cs : List Char) : join ((cs ++ []) :: []) = cs ++ [] := rfl

/-- **The spread text of a readable and snug outline** is indented, and joined it is the compact
text. -/
theorem Snug.spread_agrees {o : Outline} (hs : Snug o) (hr : Readable o) :
    Indented (o.spread 0) ∧ rejoined (o.spread 0) = o.compact := by
  have hlaid := hs.laid hr
  have hlines := lines_spread (hlaid.splits 0 [] [] [] .nil List.not_mem_nil)
  constructor
  · exact indented_spread hlines (hlaid.indents 0 [] [] [] .nil (Or.inr ⟨rfl, rfl⟩) rfl)
  · have hjoins := hlaid.joins 0 [] [] [] [] .nil join_last
    rw [List.append_nil] at hjoins
    rw [rejoined, hlines, hjoins, List.nil_append, List.append_nil, String.ofList_toList]

/-- **The spread text of a record of such parts** is indented. Joined it has no blanks inside its
brackets, where the compact text has them. -/
theorem record_spread_agrees {name : String} (hname : IsWord name) (hline : OneLine name)
    (hn : Begins (name.toList ++ Bracket.record.opening.toList)) {part : Outline}
    {parts : List Outline} (hs : ∀ p ∈ part :: parts, Snug p)
    (hr : ∀ p ∈ part :: parts, Readable p) :
    Indented ((group name .record (part :: parts)).spread 0) ∧
      ∃ inner,
        rejoined ((group name .record (part :: parts)).spread 0) =
          name ++ " \x7b" ++ inner ++ "\x7d" ∧
        (group name .record (part :: parts)).compact = name ++ " \x7b " ++ inner ++ " \x7d" := by
  have hlaid : ∀ p ∈ part :: parts, Laid p := fun p hp => (hs p hp).laid (hr p hp)
  have hlines :=
    lines_spread (splits_group hline .record hlaid 0 [] [] [] .nil List.not_mem_nil)
  constructor
  · exact indented_spread hlines
      (indents_group hname hn hlaid 0 [] [] [] .nil (Or.inr ⟨rfl, rfl⟩) rfl)
  · refine ⟨String.ofList (listed (part :: parts)), ?_, ?_⟩
    · have hjoins := joins_group hn hlaid 0 [] [] [] [] .nil join_last
      rw [List.append_nil] at hjoins
      apply String.toList_inj.1
      rw [rejoined, hlines, String.toList_ofList, hjoins]
      simp [Bracket.opening, Bracket.closing]
    · apply String.toList_inj.1
      rw [toList_compact_record]
      simp

end Outline

end Text

open Text (Indented OneLine rejoined)

/-- **Spread texts agree with compact texts**, for all values and all nodes. A compact text has one
line. Each line of a spread text is set in by four blanks for each open bracket, lines break behind
brackets and commas outside of quotes only, and empty groups stay on their line. A value comes back
as its compact text when the lines are joined, whatever texts it holds at whatever depth. A node
does up to the blanks that its compact text has next to its outermost brackets. -/
theorem Node.spreadText_agrees :
    (∀ v : AttrValue, OneLine v.compactText ∧ Indented v.spreadText ∧
      rejoined v.spreadText = v.compactText) ∧
    ∀ n : Node, OneLine n.compactText ∧ Indented n.spreadText ∧
      ∃ inner, rejoined n.spreadText = "Node \x7b" ++ inner ++ "\x7d" ∧
        n.compactText = "Node \x7b " ++ inner ++ " \x7d" := by
  refine ⟨fun v => ⟨v.oneLine_compactText, v.snug_outline.spread_agrees v.readable_outline⟩,
    fun n => ⟨n.oneLine_compactText, ?_⟩⟩
  obtain ⟨part, parts, hn, hsnug⟩ := n.outline_eq_group
  have hreadable := n.readable_outline
  rw [hn] at hreadable
  have hbegins : Text.Begins ("Node".toList ++ Text.Bracket.record.opening.toList) :=
    ⟨'N', _, rfl, by decide, by decide⟩
  cases hreadable with
  | group hname hparts =>
    rw [spreadText, compactText, hn]
    exact Text.Outline.record_spread_agrees hname (by decide) hbegins hsnug hparts

end OperatorIR
