import Mathlib.Data.List.Sort
import OperatorIR.Proofs.ByteOrder
import OperatorIR.Proofs.RegisterHistory

/-!
# The kinds of a register in order

A register enumerates its entries in an order that has no meaning, and that two registers with the
same entries need not share. It lists its kinds in the order of their bytes, which is that of their
code points. So what a register lists depends on which kinds it holds, and on nothing else: not on
the history by which it came to hold them, nor on the extenders that it holds under them.

## Main results

* `OperatorIR.Register.ascending_kinds` — the kinds are in order, each once.
* `OperatorIR.Register.kinds_eq_iff` — registers that hold the same kinds list them alike.
* `OperatorIR.Register.kinds_in_byte_order` — what every register lists, whatever its history.
-/

set_option autoImplicit false

namespace OperatorIR.Register

/-- Each kind comes after all smaller ones. -/
theorem ascending_kinds (r : Register) : r.kinds.Pairwise (· < ·) :=
  (r.sorted_kinds.and r.nodup_kinds).imp fun h => Std.lt_of_le_of_ne h.1 h.2

/-- The kinds are in the order of their bytes. -/
theorem bytes_ascending_kinds (r : Register) :
    r.kinds.Pairwise fun j k => Text.bytes j < Text.bytes k :=
  r.ascending_kinds.imp fun h => (Text.bytes_lt_iff _ _).2 h

/-- **Registers list the same kinds** exactly when they hold the same ones. -/
theorem kinds_eq_iff {r s : Register} : r.kinds = s.kinds ↔ ∀ k, r.contains k = s.contains k := by
  constructor
  · intro h k
    rw [Bool.eq_iff_iff, ← mem_kinds_iff, ← mem_kinds_iff, h]
  · intro h
    refine r.ascending_kinds.eq_of_mem_iff s.ascending_kinds fun k => ?_
    rw [mem_kinds_iff, mem_kinds_iff, h]

/-- A register in another order lists the same kinds. -/
theorem Rearranges.kinds_eq {r s : Register} (h : r.Rearranges s) : r.kinds = s.kinds :=
  kinds_eq_iff.2 fun k => congrArg Option.isSome (h.get?_eq k)

/-- A register lists each kind that was ever inserted, once. -/
theorem History.Builds.count_kinds {h : History} {r : Register} (hr : h.Builds r) (k : String) :
    r.kinds.count k = if k ∈ h.insertions.names then 1 else 0 := by
  have hmem : k ∈ r.kinds ↔ k ∈ h.insertions.names := by
    rw [mem_kinds_iff, contains, hr.get?_eq, Keyed.isSome_last?_iff]
  rw [r.nodup_kinds.count]
  exact if_congr hmem rfl rfl

/-- **A register lists its kinds in the order of their bytes.** Some register comes out of every
history of insertions and merges, and whichever does, in whatever order it holds its entries, lists
each kind that was inserted, once, and each before all that are greater in bytes. Texts are greater
in bytes exactly if they are in code points, and a text is less than all others that begin with it.
So two registers that hold the same kinds list them alike and have the same text. -/
theorem kinds_in_byte_order :
    (∀ h : History, (∃ r, h.Builds r) ∧ ∀ r, h.Builds r → ∀ s, r.Rearranges s →
      (∀ k, s.kinds.count k = if k ∈ h.insertions.names then 1 else 0) ∧
      s.kinds.Pairwise fun j k => Text.bytes j < Text.bytes k) ∧
    (∀ s t : String, (Text.bytes s < Text.bytes t ↔ Text.codePoints s < Text.codePoints t) ∧
      (s.toList <+: t.toList → s ≠ t → Text.bytes s < Text.bytes t)) ∧
    ∀ r s : Register, (∀ k, r.contains k = s.contains k) →
      r.kinds = s.kinds ∧ r.text = s.text := by
  refine ⟨?_, ?_, ?_⟩
  · intro h
    refine ⟨h.exists_builds, ?_⟩
    intro r hr s hs
    refine ⟨?_, s.bytes_ascending_kinds⟩
    rw [← hs.kinds_eq]
    exact hr.count_kinds
  · intro s t
    refine ⟨(Text.bytes_lt_iff s t).trans (Text.codePoints_lt_iff s t).symm, ?_⟩
    intro h hne
    exact (Text.bytes_lt_iff s t).2 (Text.lt_of_isPrefix h hne)
  · intro r s h
    have hkinds : r.kinds = s.kinds := kinds_eq_iff.2 h
    refine ⟨hkinds, ?_⟩
    unfold text
    rw [hkinds]

end OperatorIR.Register
