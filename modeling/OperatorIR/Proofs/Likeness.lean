import Mathlib.Data.List.Forall2
import Mathlib.Data.List.Sort
import OperatorIR.AttrMap

/-!
# Likeness of attribute values

Attribute values nest to any depth. What holds of every value is shown by induction on how it is
built, where a list may use what holds of its items. Two values are alike when they are built in
the same way from the same texts, integers, truth values and types; what it takes for two numbers
to be alike is left open, since numbers are compared in several ways.

## Main definitions

* `OperatorIR.AttrValue.singles` — the numbers in single precision that a value holds.
* `OperatorIR.AttrValue.Alike`, `OperatorIR.AttrMap.Alike` — likeness of values and of maps.

## Main results

* `OperatorIR.AttrValue.induction` — the induction over attribute values.
* `OperatorIR.AttrValue.alike_list_iff` — lists are alike when their items are, one by one.
* `OperatorIR.AttrValue.alike_self_iff` — a value is like itself when the numbers that it holds are.
* `OperatorIR.AttrMap.alike_iff_forall₂` — maps are alike when their entries are, one by one.
-/

set_option autoImplicit false

namespace OperatorIR

namespace AttrValue

/-! ## Induction -/

/-- **Induction over attribute values**: a list may use what holds of its items. -/
@[elab_as_elim]
theorem induction {motive : AttrValue → Prop} (string : ∀ text, motive (.string text))
    (int : ∀ n, motive (.int n)) (ints : ∀ ns, motive (.ints ns)) (float : ∀ x, motive (.float x))
    (bool : ∀ b, motive (.bool b)) (elementType : ∀ t, motive (.elementType t))
    (list : ∀ items, (∀ v ∈ items, motive v) → motive (.list items)) : ∀ v, motive v
  | .string text => string text
  | .int n => int n
  | .ints ns => ints ns
  | .float x => float x
  | .bool b => bool b
  | .elementType t => elementType t
  | .list items => list items fun v hv =>
    have : sizeOf v < sizeOf items := List.sizeOf_lt_of_mem hv
    induction string int ints float bool elementType list v

/-! ## Numbers -/

mutual

/-- The numbers in single precision that a value holds, at any depth. -/
def singles : AttrValue → List Single
  | float x => [x]
  | list items => singlesAll items
  | _ => []

/-- The numbers that values hold. -/
def singlesAll : List AttrValue → List Single
  | [] => []
  | item :: items => singles item ++ singlesAll items

end

/-- The numbers of values are those of one value after the other. -/
theorem singlesAll_eq_flatMap (items : List AttrValue) :
    singlesAll items = items.flatMap singles := by
  induction items with
  | nil => rfl
  | cons item items ih => rw [singlesAll, ih, List.flatMap_cons]

/-- A list holds the numbers that its items hold. -/
theorem mem_singles_list {items : List AttrValue} {x : Single} :
    x ∈ (AttrValue.list items).singles ↔ ∃ v ∈ items, x ∈ v.singles := by
  rw [singles, singlesAll_eq_flatMap, List.mem_flatMap]

/-- The items of a list without numbers hold none. -/
theorem singles_eq_nil_of_mem {items : List AttrValue} {v : AttrValue}
    (h : (AttrValue.list items).singles = []) (hv : v ∈ items) : v.singles = [] := by
  rw [singles, singlesAll_eq_flatMap, List.flatMap_eq_nil_iff] at h
  exact h v hv

/-! ## Likeness -/

/-- The values are built alike and hold the same at each place, where numbers in single precision
need only be related by `same`. -/
inductive Alike (same : Single → Single → Prop) : AttrValue → AttrValue → Prop
  | string (text : String) : Alike same (.string text) (.string text)
  | int (n : Int64) : Alike same (.int n) (.int n)
  | ints (ns : List Int64) : Alike same (.ints ns) (.ints ns)
  | float {x y : Single} (h : same x y) : Alike same (.float x) (.float y)
  | bool (b : Bool) : Alike same (.bool b) (.bool b)
  | elementType (t : ElementType) : Alike same (.elementType t) (.elementType t)
  | nil : Alike same (.list []) (.list [])
  | cons {x y : AttrValue} {xs ys : List AttrValue} (h : Alike same x y)
      (hs : Alike same (.list xs) (.list ys)) : Alike same (.list (x :: xs)) (.list (y :: ys))

/-- Lists are alike when their items are, one by one. -/
theorem alike_list_iff {same : Single → Single → Prop} {xs ys : List AttrValue} :
    Alike same (.list xs) (.list ys) ↔ List.Forall₂ (Alike same) xs ys := by
  constructor
  · intro h
    induction xs generalizing ys with
    | nil =>
      cases h
      exact .nil
    | cons x xs ih =>
      cases h with
      | cons h hs => exact .cons h (ih hs)
  · intro h
    induction h with
    | nil => exact .nil
    | cons h hs ih => exact .cons h ih

/-- Lists are alike when their items are related, one by one, in a way in which only values that are
alike are related. -/
theorem alike_list_of_forall₂ {same : Single → Single → Prop} {R : AttrValue → AttrValue → Prop}
    {xs ys : List AttrValue} (hR : ∀ v ∈ xs, ∀ w, R v w → Alike same v w)
    (h : List.Forall₂ R xs ys) : Alike same (.list xs) (.list ys) := by
  obtain ⟨hlength, hzip⟩ := List.forall₂_iff_zip.1 h
  refine alike_list_iff.2 (List.forall₂_iff_zip.2 ⟨hlength, ?_⟩)
  intro v w hvw
  exact hR v (List.of_mem_zip hvw).1 w (hzip hvw)

section Laws

variable {same : Single → Single → Prop} {a b c : AttrValue}

/-- Likeness of values is symmetric if that of numbers is. -/
theorem Alike.symm (hsymm : ∀ x y, same x y → same y x) (h : Alike same a b) : Alike same b a := by
  induction h with
  | string text => exact .string text
  | int n => exact .int n
  | ints ns => exact .ints ns
  | float h => exact .float (hsymm _ _ h)
  | bool b => exact .bool b
  | elementType t => exact .elementType t
  | nil => exact .nil
  | cons h hs ih ihs => exact .cons ih ihs

/-- Likeness of values is transitive if that of numbers is. -/
theorem Alike.trans (htrans : ∀ x y z, same x y → same y z → same x z) (h : Alike same a b)
    (h' : Alike same b c) : Alike same a c := by
  induction h generalizing c with
  | float h =>
    cases h' with
    | float h' => exact .float (htrans _ _ _ h h')
  | cons h hs ih ihs =>
    cases h' with
    | cons h' hs' => exact .cons (ih h') (ihs hs')
  | _ => exact h'

/-- **A value is like itself** if the numbers that it holds are. -/
theorem alike_self_iff (v : AttrValue) : Alike same v v ↔ ∀ x ∈ v.singles, same x x := by
  induction v using AttrValue.induction with
  | string text => exact iff_of_true (.string text) nofun
  | int n => exact iff_of_true (.int n) nofun
  | ints ns => exact iff_of_true (.ints ns) nofun
  | float x =>
    have hx : Alike same (.float x) (.float x) ↔ same x x :=
      ⟨fun h => by cases h with | float h => exact h, .float⟩
    rw [hx, singles, List.forall_mem_singleton]
  | bool b => exact iff_of_true (.bool b) nofun
  | elementType t => exact iff_of_true (.elementType t) nofun
  | list items ih =>
    rw [alike_list_iff, List.forall₂_same]
    constructor
    · intro h x hx
      obtain ⟨v, hv, hx⟩ := mem_singles_list.1 hx
      exact (ih v hv).1 (h v hv) x hx
    · intro h v hv
      exact (ih v hv).2 fun x hx => h x (mem_singles_list.2 ⟨v, hv, hx⟩)

end Laws

end AttrValue

/-! ## Maps -/

namespace Keyed

variable {α : Type} {R : α → α → Prop}

/-- Entries with the same names and related values, one by one. -/
def Related (R : α → α → Prop) : Keyed α → Keyed α → Prop :=
  List.Forall₂ fun x y => x.1 = y.1 ∧ R x.2 y.2

section LookUps

variable {a b c : Option α}

/-- Related look-ups succeed together. -/
theorem isSome_eq_of_rel (h : Option.Rel R a b) : a.isSome = b.isSome := by
  cases h <;> rfl

/-- Look-ups are related in either direction if values are. -/
theorem rel_symm (hsymm : ∀ x y, R x y → R y x) (h : Option.Rel R a b) : Option.Rel R b a := by
  cases h with
  | some h => exact .some (hsymm _ _ h)
  | none => exact .none

/-- Look-ups are related over a third one if values are. -/
theorem rel_trans (htrans : ∀ x y z, R x y → R y z → R x z) (h : Option.Rel R a b)
    (h' : Option.Rel R b c) : Option.Rel R a c := by
  cases h with
  | some h =>
    cases h' with
    | some h' => exact .some (htrans _ _ _ h h')
  | none => exact h'

/-- A look-up is related to itself if what it finds is. -/
theorem rel_self_iff : Option.Rel R a a ↔ ∀ x, a = some x → R x x := by
  cases a <;> simp

/-- Replacements that keep values related keep look-ups related. -/
theorem rel_map {f : α → α} (hf : ∀ x y, R x y → R (f x) (f y)) (h : Option.Rel R a b) :
    Option.Rel R (a.map f) (b.map f) := by
  cases h with
  | some h => exact .some (hf _ _ h)
  | none => exact .none

end LookUps

/-- Related entries are related at every look-up. -/
theorem Related.lookup {xs ys : Keyed α} (h : Related R xs ys) (k : String) :
    Option.Rel R (xs.lookup k) (ys.lookup k) := by
  induction h with
  | nil => exact .none
  | @cons x y xs ys hxy hs ih =>
    rw [lookup_cons_eq_ite, lookup_cons_eq_ite, ← hxy.1]
    split
    · exact .some hxy.2
    · exact ih

/-- Entries with the same distinct names are related when they are at every look-up.

**Proof sketch.** Induction on the entries. The first name finds the two first values; any name
after it is another one, so it finds the same in the rest as in all entries. -/
theorem related_of_names_eq {xs ys : Keyed α} (hn : xs.names = ys.names) (hd : xs.names.Nodup)
    (h : ∀ k, Option.Rel R (xs.lookup k) (ys.lookup k)) : Related R xs ys := by
  induction xs generalizing ys with
  | nil =>
    cases ys with
    | nil => exact .nil
    | cons y ys => exact absurd hn (List.cons_ne_nil _ _).symm
  | cons x xs ih =>
    cases ys with
    | nil => exact absurd hn (List.cons_ne_nil _ _)
    | cons y ys =>
      obtain ⟨hfirst, hrest⟩ : x.1 = y.1 ∧ names xs = names ys := List.cons.inj hn
      obtain ⟨hx, hxs⟩ : x.1 ∉ names xs ∧ (names xs).Nodup := List.nodup_cons.1 hd
      refine .cons ⟨hfirst, ?_⟩ (ih hrest hxs ?_)
      · have hk := h x.1
        rw [lookup_cons_eq_ite, lookup_cons_eq_ite, if_pos rfl, if_pos hfirst] at hk
        cases hk with
        | some hr => exact hr
      · intro k
        by_cases hk : k = x.1
        · -- the first name is none of the rest on either side
          have hxnone : xs.lookup k = none := by
            rw [← Option.not_isSome_iff_eq_none, isSome_lookup_iff, hk]
            exact hx
          have hynone : ys.lookup k = none := by
            rw [← Option.not_isSome_iff_eq_none, isSome_lookup_iff, hk, ← hrest]
            exact hx
          rw [hxnone, hynone]
          exact .none
        · have hr := h k
          rwa [lookup_cons_eq_ite, lookup_cons_eq_ite, if_neg hk, if_neg (hfirst ▸ hk)] at hr

end Keyed

namespace AttrMap

/-- The maps have the same names, and values that are alike under each. -/
def Alike (same : Single → Single → Prop) (a b : AttrMap) : Prop :=
  ∀ k, Option.Rel (AttrValue.Alike same) (a.get? k) (b.get? k)

/-- The names of a map are in ascending order. -/
theorem ascending_keys (m : AttrMap) : m.keys.Pairwise (· < ·) :=
  List.pairwise_map.2 m.ascending

/-- No name of a map stands twice. -/
theorem nodup_keys (m : AttrMap) : m.keys.Nodup := by
  refine m.ascending_keys.imp ?_
  rintro j k hlt rfl
  exact String.lt_irrefl j hlt

/-- Maps with the same names have them in the same order. -/
theorem keys_eq_of_mem_iff {a b : AttrMap} (h : ∀ k, k ∈ a.keys ↔ k ∈ b.keys) :
    a.keys = b.keys :=
  a.ascending_keys.eq_of_mem_iff b.ascending_keys h

/-- **Maps are alike** when their entries are, one by one. -/
theorem alike_iff_forall₂ {same : Single → Single → Prop} {a b : AttrMap} :
    a.Alike same b ↔ Keyed.Related (AttrValue.Alike same) a.entries b.entries := by
  refine ⟨fun h => ?_, fun h k => h.lookup k⟩
  have hmem : ∀ k, k ∈ a.keys ↔ k ∈ b.keys := by
    intro k
    rw [mem_keys_iff, mem_keys_iff, Keyed.isSome_eq_of_rel (h k)]
  exact Keyed.related_of_names_eq (keys_eq_of_mem_iff hmem) a.nodup_keys h

section Laws

variable {same : Single → Single → Prop} {a b c : AttrMap}

/-- Likeness of maps is symmetric if that of numbers is. -/
theorem Alike.symm (hsymm : ∀ x y, same x y → same y x) (h : a.Alike same b) : b.Alike same a :=
  fun k => Keyed.rel_symm (fun _ _ hxy => hxy.symm hsymm) (h k)

/-- Likeness of maps is transitive if that of numbers is. -/
theorem Alike.trans (htrans : ∀ x y z, same x y → same y z → same x z) (h : a.Alike same b)
    (h' : b.Alike same c) : a.Alike same c :=
  fun k => Keyed.rel_trans (fun _ _ _ hxy hyz => hxy.trans htrans hyz) (h k) (h' k)

/-- A map is like itself if the numbers in its values are. -/
theorem alike_self_iff (m : AttrMap) :
    m.Alike same m ↔ ∀ k v, m.get? k = some v → ∀ x ∈ v.singles, same x x := by
  simp only [Alike, Keyed.rel_self_iff, AttrValue.alike_self_iff]

end Laws

end AttrMap

end OperatorIR
