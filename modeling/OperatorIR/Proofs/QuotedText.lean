import OperatorIR.Text.Quoted

/-!
# Reading quoted text

Quoted text can be read back, whatever it holds and whatever follows it. A backslash announces a
character that does not stand for itself, the next character tells how it is written, and a quote
without a backslash is the end.

## Main definitions

* `OperatorIR.Text.shortNames` — the characters that have a short name, with their names.

## Main results

* `OperatorIR.Text.run_append_inj` — a run of characters of one class ends where the class does.
* `OperatorIR.Text.hexDigits_injective` — numbers are told apart by their hexadecimal digits.
* `OperatorIR.Text.escapeChar_cases` — the three ways to write a character.
* `OperatorIR.Text.escapeChar_append_inj` — the written form of a character tells where it ends.
* `OperatorIR.Text.quoted_append_inj` — so does quoted text.
-/

set_option autoImplicit false

namespace OperatorIR.Text

/-! ## Runs of characters -/

/-- The characters of a class in front of one that is not in it. -/
private theorem takeWhile_append_eq {p : Char → Bool} {w s : List Char} (hw : ∀ c ∈ w, p c = true)
    (hs : ∀ c ∈ s.head?, p c = false) : (w ++ s).takeWhile p = w := by
  have hnone : s.takeWhile p = [] := by
    cases s with
    | nil => rfl
    | cons c s => simp [hs c rfl]
  rw [List.takeWhile_append_of_pos hw, hnone, List.append_nil]

/-- **A run of characters of one class** ends where the class does. -/
theorem run_append_inj (p : Char → Bool) {v w s t : List Char} (hv : ∀ c ∈ v, p c = true)
    (hw : ∀ c ∈ w, p c = true) (hs : ∀ c ∈ s.head?, p c = false) (ht : ∀ c ∈ t.head?, p c = false)
    (h : v ++ s = w ++ t) : v = w ∧ s = t := by
  have hvw : v = w := by
    rw [← takeWhile_append_eq hv hs, h, takeWhile_append_eq hw ht]
  subst hvw
  exact ⟨rfl, List.append_cancel_left h⟩

/-! ## Hexadecimal digits -/

/-- The sixteen digits are different characters. -/
private theorem digitChar_inj {m n : Nat} (hm : m < 16) (hn : n < 16)
    (h : Nat.digitChar m = Nat.digitChar n) : m = n := by
  have all : ∀ i j : Fin 16, Nat.digitChar i = Nat.digitChar j → i = j := by decide
  exact congrArg Fin.val (all ⟨m, hm⟩ ⟨n, hn⟩ h)

/-- Numbers are told apart by their hexadecimal digits.

**Proof sketch.** Strong induction: the last digit is the remainder by sixteen, and the digits
before it are those of the quotient. -/
theorem hexDigits_injective {m n : Nat} (h : Nat.toDigits 16 m = Nat.toDigits 16 n) : m = n := by
  induction m using Nat.strongRecOn generalizing n with
  | _ m ih =>
    have hm := Nat.toDigits_eq_if (b := 16) (n := m) (by decide)
    have hn := Nat.toDigits_eq_if (b := 16) (n := n) (by decide)
    rw [hm, hn] at h
    by_cases hm16 : m < 16
    · by_cases hn16 : n < 16
      · rw [if_pos hm16, if_pos hn16] at h
        exact digitChar_inj hm16 hn16 (List.singleton_inj.1 h)
      · -- one digit against at least two
        rw [if_pos hm16, if_neg hn16] at h
        have hnil : Nat.toDigits 16 (n / 16) = [] := by
          simpa using congrArg List.length h
        exact absurd hnil Nat.toDigits_ne_nil
    · by_cases hn16 : n < 16
      · rw [if_neg hm16, if_pos hn16] at h
        have hnil : Nat.toDigits 16 (m / 16) = [] := by
          simpa using congrArg List.length h
        exact absurd hnil Nat.toDigits_ne_nil
      · rw [if_neg hm16, if_neg hn16] at h
        obtain ⟨hinit, hlast⟩ := List.append_inj' h rfl
        have hquot : m / 16 = n / 16 := ih (m / 16) (by omega) hinit
        have hrem : m % 16 = n % 16 :=
          digitChar_inj (Nat.mod_lt m (by decide)) (Nat.mod_lt n (by decide))
            (List.singleton_inj.1 hlast)
        omega

/-! ## One character -/

/-- The names behind a backslash, each with the character that it means. -/
def shortNames : List (Char × Char) :=
  [('"', '"'), ('\\', '\\'), ('0', '\x00'), ('t', '\t'), ('r', '\r'), ('n', '\n')]

/-- A short name means one character. -/
private theorem eq_of_mem_shortNames {name c d : Char} (hc : (name, c) ∈ shortNames)
    (hd : (name, d) ∈ shortNames) : c = d := by
  have all : ∀ p ∈ shortNames, ∀ q ∈ shortNames, p.1 = q.1 → p.2 = q.2 := by decide
  exact all _ hc _ hd rfl

/-- No short name is the mark of a number. -/
private theorem ne_u_of_mem_shortNames {name c : Char} (h : (name, c) ∈ shortNames) :
    name ≠ 'u' := by
  have all : ∀ p ∈ shortNames, p.1 ≠ 'u' := by decide
  exact all _ h

/-- A character is written by a short name, by its number, or as it is; the quote and the
backslash are never written as they are. -/
theorem escapeChar_cases (c : Char) :
    (∃ name, (name, c) ∈ shortNames ∧ escapeChar c = ['\\', name]) ∨
      escapeChar c = numbered c ∨
      c ≠ '"' ∧ c ≠ '\\' ∧ escapeChar c = [c] := by
  by_cases h1 : c = '"'
  · subst h1; exact Or.inl ⟨'"', by decide, rfl⟩
  by_cases h2 : c = '\\'
  · subst h2; exact Or.inl ⟨'\\', by decide, rfl⟩
  by_cases h3 : c = '\x00'
  · subst h3; exact Or.inl ⟨'0', by decide, rfl⟩
  by_cases h4 : c = '\t'
  · subst h4; exact Or.inl ⟨'t', by decide, rfl⟩
  by_cases h5 : c = '\r'
  · subst h5; exact Or.inl ⟨'r', by decide, rfl⟩
  by_cases h6 : c = '\n'
  · subst h6; exact Or.inl ⟨'n', by decide, rfl⟩
  by_cases h7 : isHidden c = true
  · exact Or.inr (Or.inl (by simp [escapeChar, h1, h2, h3, h4, h5, h6, h7]))
  · exact Or.inr (Or.inr ⟨h1, h2, by simp [escapeChar, h1, h2, h3, h4, h5, h6, h7]⟩)

/-- The number of a character ends at the closing brace. -/
private theorem numbered_append_inj {c d : Char} {s t : List Char}
    (h : numbered c ++ s = numbered d ++ t) : c = d ∧ s = t := by
  have hdigit : ∀ n, ∀ x ∈ Nat.toDigits 16 n, decide (x ≠ '\x7d') = true := by
    intro n x hx
    refine decide_eq_true ?_
    rintro rfl
    exact absurd (mem_hexDigits hx) (by decide)
  have hrest : Nat.toDigits 16 c.toNat ++ '\x7d' :: s = Nat.toDigits 16 d.toNat ++ '\x7d' :: t := by
    simpa [numbered] using h
  obtain ⟨hdigits, hst⟩ := run_append_inj (fun x => decide (x ≠ '\x7d')) (hdigit c.toNat)
    (hdigit d.toNat) (by simp) (by simp) hrest
  exact ⟨Char.toNat_inj.1 (hexDigits_injective hdigits), (List.cons.inj hst).2⟩

/-- **The written form of a character** tells which character it is and where it ends.

**Proof sketch.** By the three ways to write either character. The first character tells whether
there is a backslash, the one behind it tells a short name from a number, and a number ends at its
brace. -/
theorem escapeChar_append_inj {c d : Char} {s t : List Char}
    (h : escapeChar c ++ s = escapeChar d ++ t) : c = d ∧ s = t := by
  rcases escapeChar_cases c with ⟨a, ha, hc⟩ | hc | ⟨-, hc', hc⟩ <;>
    rcases escapeChar_cases d with ⟨b, hb, hd⟩ | hd | ⟨-, hd', hd⟩ <;>
      rw [hc, hd] at h
  · obtain ⟨rfl, hst⟩ : a = b ∧ s = t := by simpa using h
    exact ⟨eq_of_mem_shortNames ha hb, hst⟩
  · have hu : a = 'u' := by
      rw [numbered, List.append_assoc, List.append_assoc] at h
      exact (List.cons.inj (List.cons.inj h).2).1
    exact absurd hu (ne_u_of_mem_shortNames ha)
  · exact absurd (List.cons.inj h).1.symm hd'
  · have hu : 'u' = b := by
      rw [numbered, List.append_assoc, List.append_assoc] at h
      exact (List.cons.inj (List.cons.inj h).2).1
    exact absurd hu.symm (ne_u_of_mem_shortNames hb)
  · exact numbered_append_inj h
  · exact absurd (List.cons.inj h).1.symm hd'
  · exact absurd (List.cons.inj h).1 hc'
  · exact absurd (List.cons.inj h).1 hc'
  · exact List.cons.inj h

/-- No character is written with a quote in front. -/
theorem escapeChar_append_ne_quote (c : Char) (s t : List Char) : escapeChar c ++ s ≠ '"' :: t := by
  intro h
  rcases escapeChar_cases c with ⟨name, -, hc⟩ | hc | ⟨hq, -, hc⟩ <;> rw [hc] at h
  · exact absurd (List.cons.inj h).1 (by decide)
  · exact absurd (List.cons.inj h).1 (by decide)
  · exact hq (List.cons.inj h).1

/-! ## Quoted text -/

/-- Characters inside quotes end at the first quote that has no backslash. -/
theorem escape_append_quote_inj {cs ds s t : List Char}
    (h : escape cs ++ '"' :: s = escape ds ++ '"' :: t) : cs = ds ∧ s = t := by
  induction cs generalizing ds with
  | nil =>
    cases ds with
    | nil => exact ⟨rfl, (List.cons.inj h).2⟩
    | cons d ds =>
      rw [escape_cons, List.append_assoc] at h
      exact absurd h.symm (escapeChar_append_ne_quote d _ _)
  | cons c cs ih =>
    cases ds with
    | nil =>
      rw [escape_cons, List.append_assoc] at h
      exact absurd h (escapeChar_append_ne_quote c _ _)
    | cons d ds =>
      rw [escape_cons, escape_cons, List.append_assoc, List.append_assoc] at h
      obtain ⟨rfl, hrest⟩ := escapeChar_append_inj h
      obtain ⟨rfl, hst⟩ := ih hrest
      exact ⟨rfl, hst⟩

/-- **Quoted text** tells what was quoted and where it ends, whatever follows. -/
theorem quoted_append_inj {a b : String} {s t : List Char}
    (h : (quoted a).toList ++ s = (quoted b).toList ++ t) : a = b ∧ s = t := by
  rw [toList_quoted, toList_quoted] at h
  have hrest : escape a.toList ++ '"' :: s = escape b.toList ++ '"' :: t := by simpa using h
  obtain ⟨hab, hst⟩ := escape_append_quote_inj hrest
  exact ⟨String.toList_inj.1 hab, hst⟩

/-- Different texts are quoted differently. -/
theorem quoted_inj {a b : String} : quoted a = quoted b ↔ a = b := by
  refine ⟨fun h => ?_, congrArg quoted⟩
  have hlist : (quoted a).toList ++ [] = (quoted b).toList ++ [] := by rw [h]
  exact (quoted_append_inj hlist).1

end OperatorIR.Text
