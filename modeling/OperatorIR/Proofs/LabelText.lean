import OperatorIR.Node.Basic
import OperatorIR.Proofs.Separators

/-!
# Telling nodes apart by their labels

Messages name a node by its label. The name stands in quotes and can be read back whatever it
holds, even if it looks like the rest of a label. Operator and version stand as they are, with a
separator in between. They can be told apart if the operator does not have the separator inside;
if it has, its last part could as well be a version.

## Main results

* `OperatorIR.Label.operator_eq_iff` — what the parentheses tell.
* `OperatorIR.Label.text_eq_iff` — what the whole label tells.
* `OperatorIR.Node.text_identifies` — nodes with one label.
-/

set_option autoImplicit false

namespace OperatorIR

open Text (EndsPart Unseparated quoted separator)

namespace Label

variable {l m : Label}

/-! ## Operator and version -/

/-- What stands behind the operator: nothing, or the version behind a separator. -/
def versionBehind (version : Option String) : List Char :=
  match version with
  | none => []
  | some version => separator ++ version.toList

/-- The operator does not go on there. -/
theorem endsPart_versionBehind (version : Option String) : EndsPart (versionBehind version) := by
  cases version with
  | none => exact Or.inl rfl
  | some version => exact Or.inr ⟨version.toList, rfl⟩

/-- No version is told from every version, and any two versions from each other. -/
theorem versionBehind_inj {u v : Option String} : versionBehind u = versionBehind v ↔ u = v := by
  cases u <;> cases v <;> simp [versionBehind, separator, String.toList_inj]

/-- The parentheses hold the operator and what stands behind it. -/
theorem toList_operator (l : Label) :
    l.operator.toList = l.op.toList ++ versionBehind l.version := by
  obtain ⟨name, op, version⟩ := l
  cases version with
  | none => exact (List.append_nil _).symm
  | some version => simp [operator, versionBehind, separator]

/-- **The parentheses tell operator and version** if no operator has a separator inside. -/
theorem operator_eq_iff (hl : Unseparated l.op) (hm : Unseparated m.op) :
    l.operator = m.operator ↔ l.op = m.op ∧ l.version = m.version := by
  rw [← String.toList_inj, toList_operator, toList_operator]
  constructor
  · intro h
    obtain ⟨hop, hversion⟩ := Text.unseparated_append_inj hl hm
      (endsPart_versionBehind l.version) (endsPart_versionBehind m.version) h
    exact ⟨hop, versionBehind_inj.1 hversion⟩
  · rintro ⟨hop, hversion⟩
    rw [hop, hversion]

/-! ## The whole label -/

/-- A label tells its name and what stands in its parentheses. -/
theorem text_eq_iff : l.text = m.text ↔ l.name = m.name ∧ l.operator = m.operator := by
  have hchars : ∀ k : Label, k.text.toList =
      "Node ".toList ++ ((quoted k.name).toList ++ (" (" ++ k.operator ++ ")").toList) := by
    intro k
    simp only [text, String.toList_append, List.append_assoc]
  constructor
  · intro h
    rw [← String.toList_inj, hchars, hchars] at h
    obtain ⟨hname, hparens⟩ := Text.quoted_append_inj (List.append_cancel_left h)
    refine ⟨hname, ?_⟩
    simpa [← String.toList_inj] using hparens
  · rintro ⟨hname, hoperator⟩
    rw [text, text, hname, hoperator]

/-- A separator in an operator can be taken for the one before a version. -/
theorem text_of_separated (name op version : String) :
    text ⟨name, op ++ ", " ++ version, none⟩ = text ⟨name, op, some version⟩ := rfl

end Label

namespace Node

/-- **Labels identify nodes.** Two nodes with one label have the same name, whatever their names,
operators and versions are. If no operator has a separator inside, they have one label exactly if
they have the same name, operator and version, where no version is none of the versions. -/
theorem text_identifies :
    (∀ n m : Node, n.text = m.text → n.name = m.name) ∧
      ∀ n m : Node, Unseparated n.op → Unseparated m.op →
        (n.text = m.text ↔ n.name = m.name ∧ n.op = m.op ∧ n.version = m.version) := by
  refine ⟨fun n m h => (Label.text_eq_iff.1 h).1, fun n m hn hm => ?_⟩
  rw [Label.text_eq_iff, Label.operator_eq_iff hn hm]

/-- An operator that ends in a comma, and an empty version, which is not the same as none. -/
theorem text_identifies_empty_version :
    Unseparated "Cast," ∧
      (ofName "c\" (Cast" "Cast,").text ≠ ((ofName "c\" (Cast" "Cast,").withVersion "").text := by
  have hop : Unseparated "Cast," := by decide
  refine ⟨hop, fun h => ?_⟩
  have hversion := ((text_identifies.2 _ _ hop hop).1 h).2.2
  exact absurd hversion (Option.some_ne_none "").symm

end Node

end OperatorIR
