import OperatorIR.Proofs.AttrUpdate

/-!
# Passes that turn attributes into lists

Several attributes of a node are turned into lists by a pass over their names. A name may come more
than once, and the node need not have it. A value that has been wrapped is a list from then on, so
no later step wraps it again; and no step adds or drops a name. So the node in the end depends on
which names the pass has, and not on their order, and a line is logged for each name, as often as it
comes, that the node did not have at the beginning.

## Main definitions

* `OperatorIR.Node.listAttrs` — the node after a pass, and what the pass logs.
* `OperatorIR.Node.Listed` — a node that differs from another by wrapped values under given names.

## Main results

* `OperatorIR.Node.attr?_listAttrs` — an attribute after a pass.
* `OperatorIR.Node.log_listAttrs` — the lines that a pass logs.
* `OperatorIR.Node.listing_wraps_once` — all of this, for every node and every pass.
-/

set_option autoImplicit false

namespace OperatorIR

/-- The two forms of lists. -/
theorem AttrValue.isList_iff (v : AttrValue) :
    v.isList = true ↔ (∃ ns, v = .ints ns) ∨ ∃ items, v = .list items := by
  cases v <;> simp [isList]

/-- Only the empty list is listed as the empty list. -/
theorem AttrValue.listed_eq_list_nil_iff (v : AttrValue) : v.listed = list [] ↔ v = list [] := by
  cases h : v.isList with
  | true => rw [listed_of_isList h]
  | false =>
    rw [listed_of_not_isList h]
    refine iff_of_false (by simp) ?_
    rintro rfl
    simp [isList] at h

namespace Node

/-! ## One pass -/

/-- The node with the attributes of the given names turned into lists, one after the other. -/
def listAttrs (n : Node) : List String → Logged Node
  | [] => .quiet n
  | key :: rest => (n.listAttr key).andThen fun m => m.listAttrs rest

/-- A pass keeps the label. -/
theorem toLabel_listAttrs (n : Node) (pass : List String) :
    (n.listAttrs pass).value.toLabel = n.toLabel := by
  induction pass generalizing n with
  | nil => rfl
  | cons key rest ih => rw [listAttrs, Logged.value_andThen, ih, toLabel_listAttr]

/-- A pass keeps the names of the attributes. -/
theorem keys_listAttrs (n : Node) (pass : List String) :
    (n.listAttrs pass).value.attrs.keys = n.attrs.keys := by
  induction pass generalizing n with
  | nil => rfl
  | cons key rest ih => rw [listAttrs, Logged.value_andThen, ih, keys_listAttr]

/-- **An attribute after a pass** is listed if the pass has its name, however often. -/
theorem attr?_listAttrs (n : Node) (pass : List String) (k : String) :
    (n.listAttrs pass).value.attr? k =
      if k ∈ pass then (n.attr? k).map AttrValue.listed else n.attr? k := by
  induction pass generalizing n with
  | nil => rfl
  | cons key rest ih =>
    have htwice : AttrValue.listed ∘ AttrValue.listed = AttrValue.listed :=
      funext AttrValue.listed_listed
    rw [listAttrs, Logged.value_andThen, ih, attr?_listAttr]
    by_cases hk : k = key
    · subst hk
      by_cases hrest : k ∈ rest <;> simp [hrest, htwice]
    · simp [hk]

example :
    (((ofName "p" "Pad").withAttr "pads" (.int 2)).listAttrs ["pads", "pads"]).value.attrs.entries =
      [("pads", .list [.int 2])] := rfl

/-- **The lines of a pass** are one for each name that the node does not have, in the order of the
pass and as often as it has the name.

**Proof sketch.** Induction on the pass. The first step keeps the label and the names, so the later
ones say of the node after it what they would say of the node before it. -/
theorem log_listAttrs (n : Node) (pass : List String) :
    (n.listAttrs pass).log = (pass.filter fun k => k ∉ n.attrs.keys).map fun k =>
      ⟨.warn, n.text ++ " has no attribute " ++ k ++ ", leaving it as is"⟩ := by
  induction pass generalizing n with
  | nil => rfl
  | cons key rest ih =>
    have hmem : key ∈ n.attrs.keys ↔ (n.attr? key).isSome = true := n.attrs.mem_keys_iff key
    rw [listAttrs, Logged.log_andThen, ih, keys_listAttr, toLabel_listAttr, log_listAttr,
      List.filter_cons]
    by_cases hkey : (n.attr? key).isSome = true
    · simp [hkey, hmem.2 hkey]
    · simp [hkey, mt hmem.1 hkey]

/-- Passes with the same names end in the same node. -/
theorem listAttrs_eq_of_mem_iff (n : Node) {pass other : List String}
    (h : ∀ k, k ∈ other ↔ k ∈ pass) : (n.listAttrs other).value = (n.listAttrs pass).value := by
  refine ext_attr? ?_ fun k => ?_
  · rw [toLabel_listAttrs, toLabel_listAttrs]
  · simp only [attr?_listAttrs, h]

/-- A second pass over names of the first one changes nothing. -/
theorem listAttrs_listAttrs (n : Node) {pass again : List String} (h : again ⊆ pass) :
    ((n.listAttrs pass).value.listAttrs again).value = (n.listAttrs pass).value := by
  refine ext_attr? (toLabel_listAttrs _ _) fun k => ?_
  rw [attr?_listAttrs]
  split
  next hk =>
    rw [attr?_listAttrs, if_pos (h hk), Option.map_map]
    exact congrArg (fun f => (n.attr? k).map f) (funext AttrValue.listed_listed)
  next => rfl

/-! ## What a pass does -/

/-- The second node is the first one with some values wrapped: under the given names, those that
were no lists, each the only item of a list from now on. All others are what they were. -/
structure Listed (n m : Node) (names : List String) : Prop where
  label : m.toLabel = n.toLabel
  keys : m.attrs.keys = n.attrs.keys
  wrapped : ∀ k ∈ names, ∀ v, n.attr? k = some v → (∀ ns, v ≠ .ints ns) →
    (∀ items, v ≠ .list items) → m.attr? k = some (.list [v])
  kept : ∀ k v, n.attr? k = some v →
    (k ∉ names ∨ (∃ ns, v = .ints ns) ∨ ∃ items, v = .list items) → m.attr? k = some v

/-- A pass wraps the values under its names. -/
theorem listed_listAttrs (n : Node) (pass : List String) :
    n.Listed (n.listAttrs pass).value pass where
  label := n.toLabel_listAttrs pass
  keys := n.keys_listAttrs pass
  wrapped k hk v hv hints hlist := by
    have hv' : v.isList = false := by
      rw [← Bool.not_eq_true, v.isList_iff]
      rintro (⟨ns, rfl⟩ | ⟨items, rfl⟩)
      · exact hints ns rfl
      · exact hlist items rfl
    rw [attr?_listAttrs, if_pos hk, hv, Option.map_some, AttrValue.listed_of_not_isList hv']
  kept k v hv h := by
    rw [attr?_listAttrs, hv]
    split
    next hk =>
      have hv' : v.isList = true := v.isList_iff.2 (h.resolve_left fun hn => hn hk)
      rw [Option.map_some, AttrValue.listed_of_isList hv']
    next => rfl

/-- No pass leaves an empty list where there was none. -/
theorem attr?_listAttrs_eq_nil_iff (n : Node) (pass : List String) (k : String) :
    (n.listAttrs pass).value.attr? k = some (.list []) ↔ n.attr? k = some (.list []) := by
  rw [attr?_listAttrs]
  split
  · simp [AttrValue.listed_eq_list_nil_iff]
  · rfl

/-- **A pass wraps each value once.** Name, operator, version and the names of the attributes stay.
A value under one of the names of the pass that is no list becomes the only item of a list; a list
of either form, and a value under any other name, stays what it is. So passes over the same names,
in whatever order and however often each, end in one node; a second pass over some of the names
changes nothing; and there is an empty list afterwards only where there was one. One line is logged
for each name of the pass that the node does not have, in their order, and nothing else. -/
theorem listing_wraps_once (n : Node) (pass : List String) :
    n.Listed (n.listAttrs pass).value pass ∧
    (∀ other : List String, (∀ k, k ∈ other ↔ k ∈ pass) →
      (n.listAttrs other).value = (n.listAttrs pass).value) ∧
    (∀ again : List String, again ⊆ pass →
      ((n.listAttrs pass).value.listAttrs again).value = (n.listAttrs pass).value) ∧
    (∀ k, (n.listAttrs pass).value.attr? k = some (.list []) ↔ n.attr? k = some (.list [])) ∧
    (n.listAttrs pass).log = (pass.filter fun k => k ∉ n.attrs.keys).map fun k =>
      ⟨.warn, n.text ++ " has no attribute " ++ k ++ ", leaving it as is"⟩ := by
  refine ⟨n.listed_listAttrs pass, ?_, ?_, n.attr?_listAttrs_eq_nil_iff pass,
    n.log_listAttrs pass⟩
  · intro other h
    exact n.listAttrs_eq_of_mem_iff h
  · intro again h
    exact n.listAttrs_listAttrs h

end Node

end OperatorIR
