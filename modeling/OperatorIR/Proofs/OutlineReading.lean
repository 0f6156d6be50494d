import OperatorIR.Proofs.QuotedText
import OperatorIR.Text.Outline

/-!
# Reading outlines

The compact text of an outline can be read back. What makes this possible is that leaves, labels
and names keep to words without structural characters, or are quoted. Then the characters behind a
leaf, label or name tell which of the three it is, the brackets tell how far a group goes, and the
commas tell its parts apart, to any depth.

## Main definitions

* `OperatorIR.Text.IsWord`, `IsHead` — texts without structural characters, or quoted.
* `OperatorIR.Text.Stops` — what can follow an outline inside another one.
* `OperatorIR.Text.Outline.Readable` — outlines of words and quoted texts.
* `OperatorIR.Text.Outline.head`, `tail` — an outline as its first text and what follows it.

## Main results

* `OperatorIR.Text.head_append_inj` — a word or quoted text tells where it ends.
* `OperatorIR.Text.Outline.Readable.determined` — so does the compact text of a readable outline.
* `OperatorIR.Text.Outline.compact_inj` — different readable outlines have different texts.

## Design

The induction is on one of two outlines with the same text. It needs a statement about texts with
something behind them, since the text of a part goes on with the parts after it. It is false for
any continuation: a word could go on, or a leaf could be taken for a label. `Stops` allows what
does occur.
-/

set_option autoImplicit false

namespace OperatorIR.Text

/-! ## Words -/

/-- The characters that give text its structure. -/
def isDelimiter (c : Char) : Bool :=
  ['"', ' ', ',', ':', '(', ')', '[', ']', '\x7b', '\x7d'].contains c

/-- The text has no structural characters; it may be empty. -/
def IsWord (text : String) : Prop := text.toList.all (fun c => !isDelimiter c) = true

/-- The text is a word, or quoted. -/
def IsHead (text : String) : Prop := IsWord text ∨ ∃ s, text = quoted s

/-- A word ends here: there are no more characters, or a structural one comes, but no quote. -/
def IsBreak (cs : List Char) : Prop := ∀ c ∈ cs.head?, isDelimiter c = true ∧ c ≠ '"'

/-- A word ends with the text. -/
theorem isBreak_nil : IsBreak [] := nofun

/-- A word ends before a structural character that is no quote. -/
theorem isBreak_cons {c : Char} (cs : List Char) (hd : isDelimiter c = true) (hq : c ≠ '"') :
    IsBreak (c :: cs) := by
  intro d hd'
  obtain rfl : c = d := Option.some.inj hd'
  exact ⟨hd, hq⟩

/-- A word that ends is no quoted text. -/
theorem word_append_ne_quoted {a b : String} {s t : List Char} (ha : IsWord a) (hs : IsBreak s) :
    a.toList ++ s ≠ (quoted b).toList ++ t := by
  intro h
  rw [toList_quoted, List.cons_append, List.cons_append] at h
  cases hw : a.toList with
  | nil =>
    rw [hw, List.nil_append] at h
    exact (hs '"' (by rw [h]; rfl)).2 rfl
  | cons c cs =>
    rw [hw] at h
    obtain rfl : c = '"' := (List.cons.inj h).1
    have hc := List.all_eq_true.1 ha '"' (by rw [hw]; exact List.mem_cons_self)
    exact absurd hc (by decide)

/-- A word or quoted text, if there is any, does not begin like the end of a word. -/
theorem not_isBreak_head {a : String} (ha : IsHead a) (hne : a.toList ≠ []) (s : List Char) :
    ¬ IsBreak (a.toList ++ s) := by
  intro hs
  cases hw : a.toList with
  | nil => exact hne hw
  | cons c cs =>
    obtain ⟨hd, hq⟩ := hs c (by rw [hw]; rfl)
    rcases ha with ha | ⟨b, rfl⟩
    · have hc := List.all_eq_true.1 ha c (by rw [hw]; exact List.mem_cons_self)
      rw [hd] at hc
      exact absurd hc (by decide)
    · rw [toList_quoted] at hw
      exact hq (List.cons.inj hw).1.symm

/-- **A word or quoted text** tells where it ends, if a word is followed by its end. -/
theorem head_append_inj {a b : String} {s t : List Char} (ha : IsHead a) (hb : IsHead b)
    (hs : IsBreak s) (ht : IsBreak t) (h : a.toList ++ s = b.toList ++ t) : a = b ∧ s = t := by
  rcases ha with ha | ⟨a, rfl⟩
  · rcases hb with hb | ⟨b, rfl⟩
    · have hbreak : ∀ {cs : List Char}, IsBreak cs → ∀ c ∈ cs.head?, (!isDelimiter c) = false :=
        fun hcs c hc => by rw [(hcs c hc).1, Bool.not_true]
      obtain ⟨hab, hst⟩ := run_append_inj (fun c => !isDelimiter c) (List.all_eq_true.1 ha)
        (List.all_eq_true.1 hb) (hbreak hs) (hbreak ht) h
      exact ⟨String.toList_inj.1 hab, hst⟩
    · exact absurd h (word_append_ne_quoted ha hs)
  · rcases hb with hb | ⟨b, rfl⟩
    · exact absurd h.symm (word_append_ne_quoted hb ht)
    · obtain ⟨rfl, hst⟩ := quoted_append_inj h
      exact ⟨rfl, hst⟩

/-- Texts with a separator between them are the first, and the others each behind it. -/
theorem toList_intercalate_cons (sep text : String) (texts : List String) :
    (sep.intercalate (text :: texts)).toList =
      text.toList ++ texts.flatMap fun t => sep.toList ++ t.toList := by
  induction texts generalizing text with
  | nil => simp
  | cons t texts ih =>
    rw [String.intercalate_cons_cons, String.toList_append, String.toList_append, ih,
      List.flatMap_cons, List.append_assoc, List.append_assoc]

/-! ## What follows an outline -/

namespace Bracket

/-- The end of a group that has parts, with what comes behind it. -/
def endOf (b : Bracket) (cs : List Char) : List Char := (b.padding ++ b.closing).toList ++ cs

/-- The end of a group tells what comes behind it. -/
theorem endOf_inj {b : Bracket} {s t : List Char} : b.endOf s = b.endOf t ↔ s = t :=
  List.append_right_inj _

/-- No group ends with a comma. -/
theorem endOf_ne_comma (b : Bracket) (s t : List Char) : b.endOf s ≠ ',' :: t := by
  cases b <;> simp [endOf, padding, closing]

/-- The opening text of a group tells its brackets. -/
theorem opening_append_inj {b c : Bracket} {s t : List Char}
    (h : b.opening.toList ++ s = c.opening.toList ++ t) : b = c ∧ s = t := by
  cases b <;> cases c <;> simp_all [opening]

end Bracket

/-- What can follow an outline: nothing, the next part, or the end of a group. -/
inductive Stops : List Char → Prop
  | nil : Stops []
  | comma (cs : List Char) : Stops (',' :: cs)
  | ending (b : Bracket) (cs : List Char) : Stops (b.endOf cs)

namespace Stops

variable {s : List Char}

/-- A word ends where an outline does. -/
theorem isBreak (h : Stops s) : IsBreak s := by
  cases h with
  | nil => exact isBreak_nil
  | comma cs => exact isBreak_cons cs rfl (by decide)
  | ending b cs => cases b <;> exact isBreak_cons _ rfl (by decide)

/-- No label ends where an outline does. -/
theorem ne_colon (h : Stops s) (t : List Char) : s ≠ ':' :: t := by
  cases h with
  | nil => simp
  | comma cs => simp
  | ending b cs => cases b <;> simp [Bracket.endOf, Bracket.padding, Bracket.closing]

/-- No group opens where an outline ends. -/
theorem ne_opening (h : Stops s) (c : Bracket) (t : List Char) : s ≠ c.opening.toList ++ t := by
  cases h with
  | nil => cases c <;> simp [Bracket.opening]
  | comma cs => cases c <;> simp [Bracket.opening]
  | ending b cs =>
    cases b <;> cases c <;> simp [Bracket.endOf, Bracket.padding, Bracket.closing, Bracket.opening]

end Stops

/-! ## Readable outlines -/

namespace Outline

/-- The outline has words and quoted texts only: its leaves are not empty, its labels may be
anything of the two, and the names of groups are words. -/
inductive Readable : Outline → Prop
  | leaf {text : String} (h : IsHead text) (hne : text.toList ≠ []) : Readable (.leaf text)
  | labelled {label : String} {part : Outline} (h : IsHead label) (hp : Readable part) :
      Readable (.labelled label part)
  | group {name : String} {b : Bracket} {parts : List Outline} (h : IsWord name)
      (hp : ∀ part ∈ parts, Readable part) : Readable (.group name b parts)

/-- Quoted text is a readable leaf. -/
theorem readable_quoted (s : String) : Readable (.leaf (quoted s)) :=
  .leaf (Or.inr ⟨s, rfl⟩) (by simp [toList_quoted])

/-- The text in front: the leaf, the label, or the name. -/
def head : Outline → String
  | leaf text => text
  | labelled label _ => label
  | group name _ _ => name

/-- Parts of a group, each behind a comma. -/
def following (parts : List Outline) : List Char :=
  parts.flatMap fun part => ',' :: ' ' :: part.compact.toList

/-- What stands between the brackets of a group, and the closing one. -/
def inside (b : Bracket) : List Outline → List Char
  | [] => b.closing.toList
  | part :: parts => b.padding.toList ++ part.compact.toList ++ following parts ++ b.endOf []

/-- What comes after the text in front. -/
def tail : Outline → List Char
  | leaf _ => []
  | labelled _ part => ':' :: ' ' :: part.compact.toList
  | group _ b parts => b.opening.toList ++ inside b parts

/-- The compact text in two parts. -/
theorem toList_compact (o : Outline) : o.compact.toList = o.head.toList ++ o.tail := by
  cases o with
  | leaf text => simp [compact, head, tail]
  | labelled label part => simp [compact, head, tail]
  | group name b parts =>
    cases parts with
    | nil => simp [compact, head, tail, inside]
    | cons part parts =>
      have hparts : (", ".intercalate (part.compact :: compactAll parts)).toList =
          part.compact.toList ++ following parts := by
        rw [toList_intercalate_cons, compactAll_eq_map, List.flatMap_map]
        rfl
      simp [compact, head, tail, inside, hparts, Bracket.endOf]

namespace Readable

variable {a b : Outline} {s t : List Char}

/-- The text in front of a readable outline is a word, or quoted. -/
theorem isHead (h : Readable a) : IsHead a.head := by
  cases h with
  | leaf h => exact h
  | labelled h => exact h
  | group h => exact Or.inl h

/-- A word in front ends where it should. -/
theorem isBreak_tail (h : Readable a) (hs : Stops s) : IsBreak (a.tail ++ s) := by
  cases h with
  | leaf => exact hs.isBreak
  | labelled => exact isBreak_cons _ rfl (by decide)
  | @group name b => cases b <;> exact isBreak_cons _ rfl (by decide)

/-- Readable outlines with one text have the same text in front. -/
theorem head_tail_inj (ha : Readable a) (hb : Readable b) (hs : Stops s) (ht : Stops t)
    (h : a.compact.toList ++ s = b.compact.toList ++ t) :
    a.head = b.head ∧ a.tail ++ s = b.tail ++ t := by
  rw [toList_compact, toList_compact, List.append_assoc, List.append_assoc] at h
  exact head_append_inj ha.isHead hb.isHead (ha.isBreak_tail hs) (hb.isBreak_tail ht) h

/-- An outline does not begin like what can follow one. -/
theorem not_stops_compact (h : Readable a) (s : List Char) : ¬ Stops (a.compact.toList ++ s) := by
  intro hs
  rw [toList_compact, List.append_assoc] at hs
  by_cases hne : a.head.toList = []
  · rw [hne, List.nil_append] at hs
    cases h with
    | leaf h hne' => exact hne' hne
    | labelled => exact hs.ne_colon _ rfl
    | group => exact hs.ne_opening _ _ (List.append_assoc _ _ _)
  · exact not_isBreak_head h.isHead hne _ hs.isBreak

/-- A group without parts is told from one with parts. -/
theorem closing_ne_inside (h : Readable a) (c : Bracket) (s t : List Char) :
    c.closing.toList ++ s ≠ c.padding.toList ++ (a.compact.toList ++ t) := by
  intro heq
  have hn := h.not_stops_compact t
  cases c with
  | round => exact hn (heq ▸ Stops.ending .round s)
  | square => exact hn (heq ▸ Stops.ending .square s)
  | curly => exact hn (heq ▸ Stops.ending .curly s)
  | record => simp [Bracket.closing, Bracket.padding] at heq

end Readable

/-! ## Reading back -/

/-- The compact text of the outline tells it from all readable outlines, and tells where it ends,
if something follows that can follow an outline. -/
def Determined (a : Outline) : Prop :=
  ∀ {b : Outline} {s t : List Char}, Readable b → Stops s → Stops t →
    a.compact.toList ++ s = b.compact.toList ++ t → a = b ∧ s = t

/-- Behind a part of a group comes the next part or the end of the group. -/
theorem stops_following (parts : List Outline) (b : Bracket) (s : List Char) :
    Stops (following parts ++ b.endOf s) := by
  cases parts with
  | nil => exact .ending b s
  | cons part parts => exact .comma _

/-- The next part comes behind a comma and a blank. -/
theorem following_cons (part : Outline) (parts : List Outline) (s : List Char) :
    following (part :: parts) ++ s =
      ',' :: ' ' :: (part.compact.toList ++ (following parts ++ s)) := by
  simp [following]

/-- **The parts of a group** are told apart by the commas before them.

**Proof sketch.** Induction on the parts. The text of each part tells where it ends, and then
either a comma announces the next part or the group ends. -/
theorem following_append_inj {ps qs : List Outline} {b : Bracket} {s t : List Char}
    (hp : ∀ p ∈ ps, Determined p) (hq : ∀ q ∈ qs, Readable q)
    (h : following ps ++ b.endOf s = following qs ++ b.endOf t) : ps = qs ∧ s = t := by
  induction ps generalizing qs with
  | nil =>
    cases qs with
    | nil => exact ⟨rfl, Bracket.endOf_inj.1 h⟩
    | cons q qs =>
      rw [following_cons] at h
      exact absurd h (b.endOf_ne_comma _ _)
  | cons p ps ih =>
    cases qs with
    | nil =>
      rw [following_cons] at h
      exact absurd h.symm (b.endOf_ne_comma _ _)
    | cons q qs =>
      rw [following_cons, following_cons] at h
      have hrest := (List.cons.inj (List.cons.inj h).2).2
      obtain ⟨rfl, hfollow⟩ := hp p List.mem_cons_self (hq q List.mem_cons_self)
        (stops_following ps b s) (stops_following qs b t) hrest
      obtain ⟨rfl, hst⟩ := ih (fun p h => hp p (List.mem_cons_of_mem _ h))
        (fun q h => hq q (List.mem_cons_of_mem _ h)) hfollow
      exact ⟨rfl, hst⟩

/-- Between its brackets a group tells its parts, and where it ends. -/
theorem inside_append_inj {ps qs : List Outline} {b : Bracket} {s t : List Char}
    (hp : ∀ p ∈ ps, Readable p) (hd : ∀ p ∈ ps, Determined p) (hq : ∀ q ∈ qs, Readable q)
    (h : inside b ps ++ s = inside b qs ++ t) : ps = qs ∧ s = t := by
  have hcons : ∀ (p : Outline) (ps : List Outline) (s : List Char), inside b (p :: ps) ++ s =
      b.padding.toList ++ (p.compact.toList ++ (following ps ++ b.endOf s)) := by
    intro p ps s
    simp [inside, Bracket.endOf]
  cases ps with
  | nil =>
    cases qs with
    | nil => exact ⟨rfl, (List.append_right_inj _).1 h⟩
    | cons q qs =>
      rw [hcons] at h
      exact absurd h ((hq q List.mem_cons_self).closing_ne_inside b _ _)
  | cons p ps =>
    cases qs with
    | nil =>
      rw [hcons] at h
      exact absurd h.symm ((hp p List.mem_cons_self).closing_ne_inside b _ _)
    | cons q qs =>
      rw [hcons, hcons] at h
      obtain ⟨rfl, hfollow⟩ := hd p List.mem_cons_self (hq q List.mem_cons_self)
        (stops_following ps b s) (stops_following qs b t) ((List.append_right_inj _).1 h)
      obtain ⟨rfl, hst⟩ := following_append_inj (fun p h => hd p (List.mem_cons_of_mem _ h))
        (fun q h => hq q (List.mem_cons_of_mem _ h)) hfollow
      exact ⟨rfl, hst⟩

/-- **The compact text of a readable outline** tells the outline, and where it ends.

**Proof sketch.** Induction on the outline. The text in front ends at the first structural
character. What comes then tells the kind of the outline: nothing of it is left for a leaf, a colon
for a label, an opening bracket for a group. The rest is the text of the parts. -/
theorem Readable.determined {a : Outline} (ha : Readable a) : Determined a := by
  induction ha with
  | @leaf text h hne =>
    intro b s t hb hs ht heq
    obtain ⟨hhead, htail⟩ := (Readable.leaf h hne).head_tail_inj hb hs ht heq
    cases hb with
    | leaf => exact ⟨congrArg Outline.leaf hhead, htail⟩
    | labelled => exact absurd htail (hs.ne_colon _)
    | group => exact absurd (htail.trans (List.append_assoc _ _ _)) (hs.ne_opening _ _)
  | @labelled label part h hp ih =>
    intro b s t hb hs ht heq
    obtain ⟨hhead, htail⟩ := (Readable.labelled h hp).head_tail_inj hb hs ht heq
    cases hb with
    | leaf => exact absurd htail.symm (ht.ne_colon _)
    | @labelled label' part' h' hp' =>
      have hrest := (List.cons.inj (List.cons.inj htail).2).2
      obtain ⟨rfl, hst⟩ := ih hp' hs ht hrest
      exact ⟨congrArg (fun l => Outline.labelled l part) hhead, hst⟩
    | @group name b parts => cases b <;> simp [tail, Bracket.opening] at htail
  | @group name b parts h hp ih =>
    intro b' s t hb hs ht heq
    obtain ⟨hhead, htail⟩ := (Readable.group (b := b) h hp).head_tail_inj hb hs ht heq
    cases hb with
    | leaf => exact absurd (htail.symm.trans (List.append_assoc _ _ _)) (ht.ne_opening _ _)
    | labelled => cases b <;> simp [tail, Bracket.opening] at htail
    | @group name' b' parts' h' hp' =>
      rw [tail, tail, List.append_assoc, List.append_assoc] at htail
      obtain ⟨rfl, hrest⟩ := Bracket.opening_append_inj htail
      obtain ⟨rfl, hst⟩ := inside_append_inj hp ih hp' hrest
      exact ⟨congrArg (fun n => Outline.group n b parts) hhead, hst⟩

/-- Readable outlines are told apart by their compact texts. -/
theorem compact_inj {a b : Outline} (ha : Readable a) (hb : Readable b) :
    a.compact = b.compact ↔ a = b := by
  refine ⟨fun h => ?_, congrArg compact⟩
  have hlist : a.compact.toList ++ [] = b.compact.toList ++ [] := by rw [h]
  exact (ha.determined hb .nil .nil hlist).1

end Outline

end OperatorIR.Text
