import OperatorIR.Node.ListAttr

/-!
# Attributes replaced in place

Work on a node replaces the value of an attribute that is there by another one, and adds or drops
no attribute. Here that is one function of the node, and the ways to replace an attribute are cases
of it.

## Main definitions

* `OperatorIR.Node.mapAttr` — the node with one attribute replaced, if it is there.

## Main results

* `OperatorIR.AttrMap.keys_insert` — a write under a name that is there keeps the names.
* `OperatorIR.Node.attr?_mapAttr`, `OperatorIR.Node.keys_mapAttr` — the attributes afterwards, and
  their names.
* `OperatorIR.Node.value_listAttr` — turning an attribute into a list is such a replacement.
-/

set_option autoImplicit false

namespace OperatorIR

/-! ## The names of attributes -/

namespace AttrMap

/-- In ascending entries a write under a name that is there keeps the names. -/
theorem names_put_of_mem {key : String} (value : AttrValue) {entries : Keyed AttrValue}
    (h : Ascending entries) (hk : key ∈ entries.names) :
    (put key value entries).names = entries.names := by
  induction entries with
  | nil => exact absurd hk List.not_mem_nil
  | cons entry rest ih =>
    obtain ⟨hlt, hrest⟩ := List.pairwise_cons.1 h
    unfold put
    split
    next hfirst =>
      -- a name before the first is none of the entries
      rcases List.mem_cons.1 hk with heq | hmem
      · exact absurd (heq ▸ hfirst) (String.lt_irrefl _)
      · obtain ⟨e, he, rfl⟩ := List.mem_map.1 hmem
        exact absurd (String.lt_trans hfirst (hlt e he)) (String.lt_irrefl _)
    next =>
      split
      next heq => rw [Keyed.names_cons, Keyed.names_cons, heq]
      next hne =>
        have hmem : key ∈ Keyed.names rest := (List.mem_cons.1 hk).resolve_left hne
        rw [Keyed.names_cons, Keyed.names_cons, ih hrest hmem]

/-- A write under a name that is there keeps the names. -/
theorem keys_insert {m : AttrMap} {key : String} (value : AttrValue)
    (h : (m.get? key).isSome = true) : (m.insert key value).keys = m.keys :=
  names_put_of_mem value m.ascending ((m.mem_keys_iff key).2 h)

end AttrMap

namespace Node

/-! ## Replacing an attribute -/

/-- The node with the value of an attribute replaced, if the node has the attribute. -/
def mapAttr (n : Node) (key : String) (f : AttrValue → AttrValue) : Node :=
  match n.attr? key with
  | none => n
  | some value => n.withAttr key (f value)

/-- Without the attribute nothing is replaced. -/
theorem mapAttr_of_none {n : Node} {key : String} (f : AttrValue → AttrValue)
    (h : n.attr? key = none) : n.mapAttr key f = n := by
  simp [mapAttr, h]

/-- With it the new value is written in the place of the old one. -/
theorem mapAttr_of_some {n : Node} {key : String} (f : AttrValue → AttrValue) {value : AttrValue}
    (h : n.attr? key = some value) : n.mapAttr key f = n.withAttr key (f value) := by
  simp [mapAttr, h]

/-- The label stays, whether the attribute is there or not. -/
@[simp] theorem toLabel_mapAttr (n : Node) (key : String) (f : AttrValue → AttrValue) :
    (n.mapAttr key f).toLabel = n.toLabel := by
  unfold mapAttr
  split <;> rfl

/-- An attribute afterwards: replaced under the given name, untouched under all others. -/
theorem attr?_mapAttr (n : Node) (key : String) (f : AttrValue → AttrValue) (k : String) :
    (n.mapAttr key f).attr? k = if k = key then (n.attr? k).map f else n.attr? k := by
  cases h : n.attr? key with
  | none =>
    rw [mapAttr_of_none f h]
    split
    next hk => rw [hk, h, Option.map_none]
    next => rfl
  | some value =>
    rw [mapAttr_of_some f h, attr?_withAttr]
    split
    next hk => rw [hk, h, Option.map_some]
    next => rfl

/-- The node has the same attributes afterwards. -/
@[simp] theorem keys_mapAttr (n : Node) (key : String) (f : AttrValue → AttrValue) :
    (n.mapAttr key f).attrs.keys = n.attrs.keys := by
  cases h : n.attr? key with
  | none => rw [mapAttr_of_none f h]
  | some value =>
    rw [mapAttr_of_some f h]
    exact AttrMap.keys_insert (f value) (Option.isSome_iff_exists.2 ⟨value, h⟩)

/-- Where the value is replaced by itself the node stays. -/
theorem mapAttr_eq_self {n : Node} {key : String} {f : AttrValue → AttrValue}
    (h : ∀ value, n.attr? key = some value → f value = value) : n.mapAttr key f = n := by
  cases hn : n.attr? key with
  | none => exact mapAttr_of_none f hn
  | some value =>
    rw [mapAttr_of_some f hn, h value hn]
    exact withAttr_of_attr? hn

/-- Replacing an attribute commutes with writing another one. -/
theorem mapAttr_withAttr (n : Node) {j k : String} (f : AttrValue → AttrValue) (value : AttrValue)
    (h : k ≠ j) : (n.withAttr k value).mapAttr j f = (n.mapAttr j f).withAttr k value := by
  refine ext_attr? ?_ fun i => ?_
  · rw [toLabel_mapAttr, toLabel_withAttr, toLabel_withAttr, toLabel_mapAttr]
  · simp only [attr?_mapAttr, attr?_withAttr]
    by_cases hi : i = k
    · simp [hi, h]
    · simp [hi]

/-- Replacing two attributes commutes. -/
theorem mapAttr_mapAttr (n : Node) {j k : String} (f g : AttrValue → AttrValue) (h : k ≠ j) :
    (n.mapAttr k g).mapAttr j f = (n.mapAttr j f).mapAttr k g := by
  refine ext_attr? ?_ fun i => ?_
  · simp only [toLabel_mapAttr]
  · simp only [attr?_mapAttr]
    by_cases hi : i = k
    · simp [hi, h]
    · simp [hi]

/-- Turning an attribute into a list replaces its value by the listed one. -/
theorem value_listAttr (n : Node) (key : String) :
    (n.listAttr key).value = n.mapAttr key AttrValue.listed := by
  unfold listAttr
  split
  next h => rw [mapAttr_of_none _ h]
  next h =>
    rw [mapAttr_of_some _ h]
    rfl

/-- Turning an attribute into a list keeps the names. -/
@[simp] theorem keys_listAttr (n : Node) (key : String) :
    (n.listAttr key).value.attrs.keys = n.attrs.keys := by
  rw [value_listAttr, keys_mapAttr]

/-- A line is logged exactly if the node does not have the attribute. -/
theorem log_listAttr (n : Node) (key : String) :
    (n.listAttr key).log =
      if (n.attr? key).isSome then []
      else [⟨.warn, n.text ++ " has no attribute " ++ key ++ ", leaving it as is"⟩] := by
  unfold listAttr
  cases n.attr? key <;> rfl

end Node

end OperatorIR
