import OperatorIR.Proofs.Dispatch
import OperatorIR.Proofs.Likeness
import OperatorIR.Proofs.Resolution

/-!
# Equal values and nodes

Values and nodes are equal when they are alike and hold equal numbers at each place. Numbers are
equal as numbers, so equality is coarser than to be the same, since the zeros of both signs are
equal; and it is no equivalence, since a NaN is not equal even to itself. It is symmetric and
transitive all the same, and what is equal to itself is exactly what holds no NaN. Nothing that is
done to nodes tells equal ones apart, not even where they are not equal to themselves.

## Main definitions

* `OperatorIR.Single.SameNumber` — equality of numbers, spelled out.

## Main results

* `OperatorIR.AttrValue.beq_iff_alike`, `OperatorIR.Node.beq_iff_alike` — equality is likeness.
* `OperatorIR.Extender.alike_resolveOutputType` — nodes that are alike stay so when their output
  types are resolved.
* `OperatorIR.Node.equal_exactly_if_alike` — all laws of equality.
-/

set_option autoImplicit false

namespace OperatorIR

/-! ## Numbers -/

namespace Single

/-- The two are one number: neither is NaN, and they have the same bits or are zeros, of whatever
signs. -/
def SameNumber (x y : Single) : Prop :=
  x.isNaN = false ∧ y.isNaN = false ∧ (x.bits = y.bits ∨ x.isZero = true ∧ y.isZero = true)

/-- Numbers with the same bits are the same. -/
theorem eq_iff_bits_eq {x y : Single} : x = y ↔ x.bits = y.bits := by
  obtain ⟨a⟩ := x
  obtain ⟨b⟩ := y
  exact mk.injEq a b ▸ Iff.rfl

/-- Numbers are equal exactly when they are one number. -/
theorem beq_iff_sameNumber (x y : Single) : (x == y) = true ↔ x.SameNumber y := by
  rw [beq_iff, SameNumber, eq_iff_bits_eq]

/-- Two numbers are one in either order. -/
theorem SameNumber.symm (x y : Single) (h : x.SameNumber y) : y.SameNumber x := by
  obtain ⟨hx, hy, hxy⟩ := h
  exact ⟨hy, hx, hxy.imp Eq.symm And.symm⟩

/-- One number is passed on through a third, also from zero to zero. -/
theorem SameNumber.trans (x y z : Single) (h : x.SameNumber y) (h' : y.SameNumber z) :
    x.SameNumber z := by
  obtain ⟨hx, -, hxy⟩ := h
  obtain ⟨-, hz, hyz⟩ := h'
  refine ⟨hx, hz, ?_⟩
  rcases hxy with hbits | ⟨hxzero, hyzero⟩
  · obtain rfl : x = y := eq_iff_bits_eq.2 hbits
    exact hyz
  · rcases hyz with hbits | ⟨-, hzzero⟩
    · obtain rfl : y = z := eq_iff_bits_eq.2 hbits
      exact Or.inr ⟨hxzero, hyzero⟩
    · exact Or.inr ⟨hxzero, hzzero⟩

/-- All but NaN are the number that they are. -/
theorem sameNumber_self_iff (x : Single) : x.SameNumber x ↔ x.isNaN = false := by
  rw [← beq_iff_sameNumber, beq_self_iff]

end Single

/-- Lists are equal when their items are, one by one. -/
theorem list_beq_iff_forall₂ {α : Type} [BEq α] {xs ys : List α} :
    (xs == ys) = true ↔ List.Forall₂ (fun x y => (x == y) = true) xs ys := by
  induction xs generalizing ys with
  | nil =>
    cases ys with
    | nil => exact iff_of_true rfl .nil
    | cons y ys => exact iff_of_false Bool.false_ne_true nofun
  | cons x xs ih =>
    cases ys with
    | nil => exact iff_of_false Bool.false_ne_true nofun
    | cons y ys => rw [List.cons_beq_cons, Bool.and_eq_true, List.forall₂_cons, ih]

/-! ## Values -/

namespace AttrValue

/-- Values that are alike and hold the same numbers are equal. -/
theorem Alike.beq {a b : AttrValue} (h : a.Alike Single.SameNumber b) : (a == b) = true := by
  induction h with
  | string text => exact beq_self_eq_true text
  | int n => exact beq_self_eq_true n
  | ints ns => exact beq_self_eq_true ns
  | float h => exact (Single.beq_iff_sameNumber _ _).2 h
  | bool b => exact beq_self_eq_true b
  | elementType t => exact decide_eq_true rfl
  | nil => rfl
  | cons h hs ih ihs =>
    rw [list_beq_list] at ihs ⊢
    rw [List.cons_beq_cons, ih, ihs, Bool.true_and]

/-- Equal values are alike and hold the same numbers.

**Proof sketch.** Induction on the first value. A second one of another kind is not equal to it. Of
two values of one kind the contents are equal, and of two lists the items. -/
theorem alike_of_beq {a b : AttrValue} (h : (a == b) = true) : a.Alike Single.SameNumber b := by
  induction a using AttrValue.induction generalizing b with
  | string s =>
    cases b with
    | string t =>
      have hst : s = t := eq_of_beq h
      rw [hst]
      exact .string t
    | _ => exact absurd h Bool.false_ne_true
  | int m =>
    cases b with
    | int n =>
      have hmn : m = n := eq_of_beq h
      rw [hmn]
      exact .int n
    | _ => exact absurd h Bool.false_ne_true
  | ints ms =>
    cases b with
    | ints ns =>
      have hmn : ms = ns := eq_of_beq h
      rw [hmn]
      exact .ints ns
    | _ => exact absurd h Bool.false_ne_true
  | float x =>
    cases b with
    | float y => exact .float ((Single.beq_iff_sameNumber x y).1 h)
    | _ => exact absurd h Bool.false_ne_true
  | bool p =>
    cases b with
    | bool q =>
      have hpq : p = q := eq_of_beq h
      rw [hpq]
      exact .bool q
    | _ => exact absurd h Bool.false_ne_true
  | elementType s =>
    cases b with
    | elementType t =>
      have hst : s = t := of_decide_eq_true h
      rw [hst]
      exact .elementType t
    | _ => exact absurd h Bool.false_ne_true
  | list xs ih =>
    cases b with
    | list ys =>
      rw [list_beq_list, list_beq_iff_forall₂] at h
      exact alike_list_of_forall₂ (fun v hv _ hvw => ih v hv hvw) h
    | _ => exact absurd h Bool.false_ne_true

/-- **Values are equal** exactly when they are alike and hold the same numbers. -/
theorem beq_iff_alike (a b : AttrValue) : (a == b) = true ↔ a.Alike Single.SameNumber b :=
  ⟨alike_of_beq, Alike.beq⟩

/-- Equality of values is symmetric and transitive. -/
instance : PartialEquivBEq AttrValue where
  symm h := (beq_iff_alike _ _).2 (((beq_iff_alike _ _).1 h).symm Single.SameNumber.symm)
  trans h h' := (beq_iff_alike _ _).2
    (((beq_iff_alike _ _).1 h).trans Single.SameNumber.trans ((beq_iff_alike _ _).1 h'))

/-- A value is equal to itself exactly if it holds no NaN, at any depth. -/
theorem beq_self_iff (v : AttrValue) : (v == v) = true ↔ ∀ x ∈ v.singles, x.isNaN = false := by
  simp only [beq_iff_alike, alike_self_iff, Single.sameNumber_self_iff]

-- zeros of both signs are equal, and a NaN is not equal to itself
example : (list [float ⟨0⟩] == list [float ⟨0x80000000⟩]) = true ∧
    (list [float ⟨0x7fc00000⟩] == list [float ⟨0x7fc00000⟩]) = false := by decide

end AttrValue

/-! ## Maps and nodes -/

/-- Maps are equal exactly when they are alike and hold the same numbers. -/
theorem AttrMap.beq_iff_alike (a b : AttrMap) : (a == b) = true ↔ a.Alike Single.SameNumber b := by
  have hentry : ∀ x y : String × AttrValue,
      (x == y) = true ↔ x.1 = y.1 ∧ AttrValue.Alike Single.SameNumber x.2 y.2 := by
    intro x y
    have hxy : (x == y) = (x.1 == y.1 && x.2 == y.2) := rfl
    rw [hxy, Bool.and_eq_true, beq_iff_eq, AttrValue.beq_iff_alike]
  show (a.entries == b.entries) = true ↔ _
  rw [list_beq_iff_forall₂, alike_iff_forall₂, Keyed.Related]
  simp only [hentry]

namespace Node

variable {same : Single → Single → Prop} {n m : Node}

/-- **Nodes are equal** exactly when they have one label and their attributes are alike and hold the
same numbers. -/
theorem beq_iff_alike (n m : Node) :
    (n == m) = true ↔ n.toLabel = m.toLabel ∧ n.attrs.Alike Single.SameNumber m.attrs := by
  have hnm : (n == m) = (n.toLabel == m.toLabel && n.attrs == m.attrs) := rfl
  rw [hnm, Bool.and_eq_true, beq_iff_eq, AttrMap.beq_iff_alike]

/-- So is equality of nodes. -/
instance : PartialEquivBEq Node where
  symm h := by
    obtain ⟨hl, ha⟩ := (beq_iff_alike _ _).1 h
    exact (beq_iff_alike _ _).2 ⟨hl.symm, ha.symm Single.SameNumber.symm⟩
  trans h h' := by
    obtain ⟨hl, ha⟩ := (beq_iff_alike _ _).1 h
    obtain ⟨hl', ha'⟩ := (beq_iff_alike _ _).1 h'
    exact (beq_iff_alike _ _).2 ⟨hl.trans hl', ha.trans Single.SameNumber.trans ha'⟩

/-- A node is equal to itself exactly if none of its attributes holds a NaN. -/
theorem beq_self_iff (n : Node) :
    (n == n) = true ↔ ∀ k v, n.attr? k = some v → ∀ x ∈ v.singles, x.isNaN = false := by
  rw [beq_iff_alike, and_iff_right rfl, AttrMap.alike_self_iff]
  simp only [Single.sameNumber_self_iff, attr?]

/-! ## Work on nodes that are alike -/

/-- A replacement that keeps values alike keeps nodes alike. -/
theorem alike_mapAttr {f : AttrValue → AttrValue}
    (hf : ∀ v w : AttrValue, v.Alike same w → (f v).Alike same (f w))
    (h : n.attrs.Alike same m.attrs) (key : String) :
    (n.mapAttr key f).attrs.Alike same (m.mapAttr key f).attrs := by
  intro k
  show Option.Rel _ ((n.mapAttr key f).attr? k) ((m.mapAttr key f).attr? k)
  rw [attr?_mapAttr, attr?_mapAttr]
  split
  · exact Keyed.rel_map hf (h k)
  · exact h k

end Node

/-- What stands in the place of an output type is alike for values that are. -/
theorem AttrValue.alike_resolved {same : Single → Single → Prop} (v w : AttrValue)
    (h : v.Alike same w) : v.resolved.Alike same w.resolved := by
  cases h with
  | string text =>
    cases hv : (AttrValue.string text).asOutputType with
    | ok t =>
      rw [resolved_of_ok hv]
      exact .elementType t
    | error fault =>
      rw [resolved_of_error hv]
      exact .string text
  | int n => exact .int n
  | ints ns => exact .ints ns
  | float h => exact .float h
  | bool b => exact .bool b
  | elementType t => exact .elementType t
  | nil => exact .nil
  | cons h hs => exact .cons h hs

section Alike

variable {same : Single → Single → Prop} {n m : Node} (hl : n.toLabel = m.toLabel)
  (ha : n.attrs.Alike same m.attrs)

include hl ha

/-- Of two nodes that are alike both or neither have their output types resolved. -/
theorem Extender.result_resolveOutputType_iff_of_alike :
    (resolveOutputType n).result = .ok () ↔ (resolveOutputType m).result = .ok () := by
  have hv : n.version = m.version := congrArg Label.version hl
  have ho : Option.Rel (AttrValue.Alike same) (n.attr? "output_type") (m.attr? "output_type") :=
    ha "output_type"
  rw [result_resolveOutputType_iff, result_resolveOutputType_iff, hv]
  generalize n.attr? "output_type" = v at ho
  generalize m.attr? "output_type" = w at ho
  cases ho with
  | none => rfl
  | some hvw => cases hvw <;> simp

/-- **Nodes that are alike** stay so when their output types are resolved, or fail to be. -/
theorem Extender.alike_resolveOutputType :
    (resolveOutputType n).node.attrs.Alike same (resolveOutputType m).node.attrs := by
  have hv : n.version = m.version := congrArg Label.version hl
  rw [node_resolveOutputType, node_resolveOutputType, hv]
  split
  · exact ha
  · exact Node.alike_mapAttr AttrValue.alike_resolved ha outputType

end Alike

/-! ## Work on equal nodes -/

section Equal

variable {n m : Node} (h : (n == m) = true)

include h

/-- Equal nodes both have their output types resolved or neither, and are equal afterwards. -/
theorem Extender.resolveOutputType_of_beq :
    ((resolveOutputType n).result = .ok () ↔ (resolveOutputType m).result = .ok ()) ∧
      ((resolveOutputType n).node == (resolveOutputType m).node) = true := by
  obtain ⟨hl, ha⟩ := (n.beq_iff_alike m).1 h
  refine ⟨result_resolveOutputType_iff_of_alike hl ha, ?_⟩
  rw [Node.beq_iff_alike, toLabel_resolveOutputType, toLabel_resolveOutputType]
  exact ⟨hl, alike_resolveOutputType hl ha⟩

/-- The standard reader extends both of two equal nodes or neither, and they are equal
afterwards. -/
theorem Reader.extend_standard_of_beq :
    ((standard.extend n).result = .ok () ↔ (standard.extend m).result = .ok ()) ∧
      ((standard.extend n).node == (standard.extend m).node) = true := by
  obtain ⟨hresult, hnode⟩ := Extender.resolveOutputType_of_beq h
  have hop : n.op = m.op := congrArg Label.op ((n.beq_iff_alike m).1 h).1
  rw [result_extend_standard_iff, result_extend_standard_iff, node_extend_standard,
    node_extend_standard, hop, hresult]
  refine ⟨Iff.rfl, ?_⟩
  split
  · exact hnode
  · exact h

end Equal

/-- **Equality is likeness up to equal numbers.** Two values are equal exactly when they are built
alike and hold the same at each place, where two numbers are the same if neither is NaN and they
have the same bits or are both zero; so are two nodes with the same name, operator and version and
such values under the same names. Equality is symmetric and transitive, and a value or a node is
equal to its copy exactly if there is no NaN in it, at any depth. Equal nodes both have their output
types resolved, directly or by the standard reader, or neither has, and either way they are equal
afterwards. -/
theorem Node.equal_exactly_if_alike :
    (∀ a b : AttrValue, (a == b) = true ↔ a.Alike Single.SameNumber b) ∧
    (∀ n m : Node, (n == m) = true ↔
      n.name = m.name ∧ n.op = m.op ∧ n.version = m.version ∧
        n.attrs.Alike Single.SameNumber m.attrs) ∧
    (∀ a b : AttrValue, (a == b) = (b == a)) ∧
    (∀ a b c : AttrValue, (a == b) = true → (b == c) = true → (a == c) = true) ∧
    (∀ n m : Node, (n == m) = (m == n)) ∧
    (∀ n m o : Node, (n == m) = true → (m == o) = true → (n == o) = true) ∧
    (∀ a : AttrValue, (a == a) = true ↔ ∀ x ∈ a.singles, x.isNaN = false) ∧
    (∀ n : Node, (n == n) = true ↔
      ∀ k v, n.attr? k = some v → ∀ x ∈ v.singles, x.isNaN = false) ∧
    ∀ n m : Node, (n == m) = true →
      ((Extender.resolveOutputType n).result = .ok () ↔
        (Extender.resolveOutputType m).result = .ok ()) ∧
      ((Extender.resolveOutputType n).node == (Extender.resolveOutputType m).node) = true ∧
      ((Reader.standard.extend n).result = .ok () ↔
        (Reader.standard.extend m).result = .ok ()) ∧
      ((Reader.standard.extend n).node == (Reader.standard.extend m).node) = true := by
  refine ⟨AttrValue.beq_iff_alike, ?_, fun _ _ => BEq.comm, fun _ _ _ => BEq.trans,
    fun _ _ => BEq.comm, fun _ _ _ => BEq.trans, AttrValue.beq_self_iff, beq_self_iff, ?_⟩
  · intro n m
    have hlabel : n.toLabel = m.toLabel ↔
        n.name = m.name ∧ n.op = m.op ∧ n.version = m.version := by
      rw [← Label.mk.injEq]
    rw [beq_iff_alike, hlabel, and_assoc, and_assoc]
  · intro n m h
    obtain ⟨hresult, hnode⟩ := Extender.resolveOutputType_of_beq h
    exact ⟨hresult, hnode, Reader.extend_standard_of_beq h⟩

end OperatorIR
