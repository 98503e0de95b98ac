import DynamicObjects.Proofs.Comparison.Equivalence
import DynamicObjects.Proofs.Enumeration.Pairing
import DynamicObjects.Proofs.Isolation.Beside

/-! # Values in other places and in other orders

    Two values are alike along a renaming if they differ in nothing but the places
    of the objects and the identities of the functions and foreign values in them,
    and in the order in which mappings enumerate their entries.

    A value need not be like itself: it is if all that it refers to has a partner,
    and if its mappings bind each name once.  So the values of a world are those that
    are like themselves along the renaming that leaves the world as it is
    (`Value.alike_within`), and any two orders of one mapping are alike
    (`Bindings.Alike.perm`). -/

namespace DynamicObjects

/-! ## Renamings -/

/-- Which **places** of one world go with which places of another one, and which
    identities with which. -/
structure Renaming where
  places : Pairing
  idents : Pairing

namespace Renaming

/-- Two objects are paired if their places are. -/
def Pairs (r : Renaming) (o p : ObjectId) : Prop := r.places.rel o.index p.index

instance : LE Renaming := ⟨fun r s => r.places ≤ s.places ∧ r.idents ≤ s.idents⟩

/-- All places of a world and all identities that it has given out stay what they are. -/
def within (w : World) : Renaming := ⟨.upTo w.heap.size, .upTo w.nextIdent⟩

/-- The same pairs turned round. -/
def symm (r : Renaming) : Renaming := ⟨r.places.symm, r.idents.symm⟩

/-- One renaming after the other. -/
def trans (r s : Renaming) : Renaming := ⟨r.places.trans s.places, r.idents.trans s.idents⟩

variable {r s : Renaming} {o o' p p' : ObjectId}

theorem Pairs.mono (h : r.Pairs o p) (hle : r ≤ s) : s.Pairs o p := hle.1 h

theorem Pairs.symm (h : r.Pairs o p) : r.symm.Pairs p o := h

theorem Pairs.trans {q : ObjectId} (h : r.Pairs o p) (h' : s.Pairs p q) :
    (r.trans s).Pairs o q := ⟨p.index, h, h'⟩

theorem pairs_within {w : World} (h : o.index < w.heap.size) : (within w).Pairs o o := ⟨rfl, h⟩

/-- Different objects have different partners. -/
theorem Pairs.eq_iff (h : r.Pairs o p) (h' : r.Pairs o' p') : o = o' ↔ p = p' := by
  cases o; cases o'; cases p; cases p'
  simpa only [ObjectId.mk.injEq] using r.places.unique h h'

end Renaming

/-- What is related is there on both sides or missing on both. -/
theorem optionRel_cases {α β : Type} {R : α → β → Prop} {a : Option α} {b : Option β}
    (h : Option.Rel R a b) :
    (∃ x y, a = some x ∧ b = some y ∧ R x y) ∨ a = none ∧ b = none := by
  cases h with
  | some hxy => exact .inl ⟨_, _, rfl, rfl, hxy⟩
  | none => exact .inr ⟨rfl, rfl⟩

theorem optionRel_mono {α β : Type} {R S : α → β → Prop} {a : Option α} {b : Option β}
    (h : Option.Rel R a b) (hRS : ∀ {x y}, R x y → S x y) : Option.Rel S a b := by
  cases h with
  | some hxy => exact .some (hRS hxy)
  | none => exact .none

/-! ## Values -/

/-- **Functions** do the same, be it to receivers that are paired. -/
inductive FunctionBody.Alike (r : Renaming) : FunctionBody → FunctionBody → Prop where
  | bound {o p : ObjectId} (h : r.Pairs o p) (qualifiedName : String) (method : MethodBody) :
      Alike r (.bound o qualifiedName method) (.bound p qualifiedName method)
  | host : Alike r .host .host

structure Function.Alike (r : Renaming) (f g : Function) : Prop where
  ident : r.idents.rel f.ident g.ident
  name_eq : f.name = g.name
  body : f.body.Alike r g.body

structure Foreign.Alike (r : Renaming) (x y : Foreign) : Prop where
  ident : r.idents.rel x.ident y.ident
  typeName_eq : x.typeName = y.typeName

/-- **Values** are alike if they are the same up to a renaming and up to the order of
    entries. -/
inductive Value.Alike (r : Renaming) : Value → Value → Prop where
  | null : Alike r .null .null
  | bool (b : Bool) : Alike r (.bool b) (.bool b)
  | int (n : Int64) : Alike r (.int n) (.int n)
  | float (x : Binary64) : Alike r (.float x) (.float x)
  | complex (z : Complex) : Alike r (.complex z) (.complex z)
  | text (s : String) : Alike r (.text s) (.text s)
  | list {xs ys : List Value} (hlength : xs.length = ys.length)
      (h : ∀ {x y}, (x, y) ∈ xs.zip ys → Alike r x y) : Alike r (.list xs) (.list ys)
  | dict {xs ys : Bindings Value} (hxs : (Bindings.names xs).Nodup)
      (hys : (Bindings.names ys).Nodup)
      (hnames : ∀ {name}, name ∈ Bindings.names xs ↔ name ∈ Bindings.names ys)
      (h : ∀ {name x y}, Bindings.get? name xs = some x → Bindings.get? name ys = some y →
        Alike r x y) : Alike r (.dict xs) (.dict ys)
  | function {f g : Function} (h : f.Alike r g) : Alike r (.function f) (.function g)
  | foreign {x y : Foreign} (h : x.Alike r y) : Alike r (.foreign x) (.foreign y)
  | object {o p : ObjectId} (h : r.Pairs o p) : Alike r (.object o) (.object p)

/-- **Mappings** are alike if they bind the same names, each once, to values that are
    alike.  Nothing is said of the order. -/
structure Bindings.Alike (r : Renaming) (xs ys : Bindings Value) : Prop where
  left : (names xs).Nodup
  right : (names ys).Nodup
  values : Matches (Value.Alike r) xs ys

section values
variable {r s : Renaming} {x y z : Value}

theorem FunctionBody.Alike.mono {b c : FunctionBody} (h : b.Alike r c) (hle : r ≤ s) :
    b.Alike s c := by
  cases h with
  | bound h qualifiedName method => exact .bound (h.mono hle) qualifiedName method
  | host => exact .host

theorem FunctionBody.Alike.symm {b c : FunctionBody} (h : b.Alike r c) : c.Alike r.symm b := by
  cases h with
  | bound h qualifiedName method => exact .bound h.symm qualifiedName method
  | host => exact .host

theorem FunctionBody.Alike.trans {b c d : FunctionBody} (h : b.Alike r c) (h' : c.Alike s d) :
    b.Alike (r.trans s) d := by
  cases h with
  | bound h qualifiedName method =>
    cases h' with
    | bound h' => exact .bound (h.trans h') qualifiedName method
  | host =>
    cases h'
    exact .host

namespace Value

theorem alike_list {xs ys : List Value} :
    (Value.list xs).Alike r (.list ys) ↔ List.Forall₂ (Alike r) xs ys := by
  rw [List.forall₂_iff_zip]
  exact ⟨fun h => by cases h with | list hlength h => exact ⟨hlength, h⟩,
    fun h => .list h.1 h.2⟩

theorem alike_dict {xs ys : Bindings Value} :
    (Value.dict xs).Alike r (.dict ys) ↔ Bindings.Alike r xs ys := by
  constructor
  · intro h
    cases h with
    | dict hxs hys hnames h =>
      refine ⟨hxs, hys, fun name => ?_⟩
      -- Both bind the same names, so that a name is bound in both or in none.
      cases hx : Bindings.get? name xs with
      | none =>
        rw [Bindings.get?_eq_none_iff, hnames, ← Bindings.get?_eq_none_iff] at hx
        rw [hx]
        exact .none
      | some x =>
        cases hy : Bindings.get? name ys with
        | none =>
          rw [Bindings.get?_eq_none_iff, ← hnames, ← Bindings.get?_eq_none_iff, hx] at hy
          cases hy
        | some y => exact .some (h hx hy)
  · intro h
    refine .dict h.left h.right h.values.mem_names_iff fun {name x y} hx hy => ?_
    have hrel := h.values name
    rw [hx, hy] at hrel
    cases hrel with
    | some hxy => exact hxy

theorem Alike.mono (h : x.Alike r y) (hle : r ≤ s) : x.Alike s y := by
  induction h with
  | list hlength _ ih => exact .list hlength ih
  | dict hxs hys hnames _ ih => exact .dict hxs hys hnames ih
  | function h => exact .function ⟨hle.2 h.ident, h.name_eq, h.body.mono hle⟩
  | foreign h => exact .foreign ⟨hle.2 h.ident, h.typeName_eq⟩
  | object h => exact .object (h.mono hle)
  | _ => constructor

theorem Alike.symm (h : x.Alike r y) : y.Alike r.symm x := by
  induction h with
  | list hlength _ ih =>
    refine .list hlength.symm fun h => ih ?_
    rw [← List.zip_swap]
    exact List.mem_map.mpr ⟨_, h, rfl⟩
  | dict hxs hys hnames _ ih => exact .dict hys hxs hnames.symm fun hy hx => ih hx hy
  | function h => exact .function ⟨h.ident, h.name_eq.symm, h.body.symm⟩
  | foreign h => exact .foreign ⟨h.ident, h.typeName_eq.symm⟩
  | object h => exact .object h.symm
  | _ => constructor

theorem Alike.trans (h : x.Alike r y) (h' : y.Alike s z) : x.Alike (r.trans s) z := by
  induction h generalizing z with
  | @list xs ys hlength _ ih =>
    cases h' with
    | list hlength' h' =>
      refine .list (hlength.trans hlength') fun {a c} hac => ?_
      -- What stands between the two is at the same position.
      obtain ⟨i, hi⟩ := List.mem_iff_getElem?.mp hac
      obtain ⟨ha, hc⟩ := List.getElem?_zip_eq_some.mp hi
      have hlt : i < ys.length := hlength' ▸ (List.getElem?_eq_some_iff.mp hc).1
      have hb := List.getElem?_eq_getElem hlt
      have hab : (a, ys[i]) ∈ xs.zip ys :=
        List.mem_of_getElem? (List.getElem?_zip_eq_some.mpr ⟨ha, hb⟩)
      have hbc : (ys[i], c) ∈ ys.zip _ :=
        List.mem_of_getElem? (List.getElem?_zip_eq_some.mpr ⟨hb, hc⟩)
      exact ih hab (h' hbc)
  | @dict xs ys hxs hys hnames _ ih =>
    cases h' with
    | dict _ hzs hnames' h' =>
      refine .dict hxs hzs (hnames.trans hnames') fun {name a c} ha hc => ?_
      cases hb : Bindings.get? name ys with
      | none =>
        rw [Bindings.get?_eq_none_iff, hnames', ← Bindings.get?_eq_none_iff, hc] at hb
        cases hb
      | some b => exact ih ha hb (h' hb hc)
  | @function f g h =>
    cases h' with
    | function h' =>
      exact .function ⟨⟨g.ident, h.ident, h'.ident⟩, h.name_eq.trans h'.name_eq,
        h.body.trans h'.body⟩
  | @foreign a b h =>
    cases h' with
    | foreign h' =>
      exact .foreign ⟨⟨b.ident, h.ident, h'.ident⟩, h.typeName_eq.trans h'.typeName_eq⟩
  | object h =>
    cases h' with
    | object h' => exact .object (h.trans h')
  | _ =>
    cases h'
    constructor

end Value

end values

/-! ## Mappings -/

namespace Bindings

section alike
variable {r s : Renaming} {xs ys zs : Bindings Value}

theorem Alike.mono (h : Alike r xs ys) (hle : r ≤ s) : Alike s xs ys :=
  Value.alike_dict.mp ((Value.alike_dict.mpr h).mono hle)

theorem Alike.symm (h : Alike r xs ys) : Alike r.symm ys xs :=
  Value.alike_dict.mp (Value.alike_dict.mpr h).symm

theorem Alike.trans (h : Alike r xs ys) (h' : Alike s ys zs) : Alike (r.trans s) xs zs :=
  Value.alike_dict.mp ((Value.alike_dict.mpr h).trans (Value.alike_dict.mpr h'))

theorem alike_nil : Alike r [] [] := ⟨List.nodup_nil, List.nodup_nil, fun _ => .none⟩

/-- Each value on one side has a **counterpart** on the other. -/
theorem Alike.exists_of_mem (h : Alike r xs ys) {entry : String × Value} (hentry : entry ∈ xs) :
    ∃ y, get? entry.1 ys = some y ∧ entry.2.Alike r y := by
  have hrel := h.values entry.1
  rw [get?_eq_some_of_mem h.left hentry] at hrel
  obtain ⟨x, y, hx, hy, hxy⟩ | ⟨hx, -⟩ := optionRel_cases hrel
  · obtain rfl := Option.some.inj hx
    exact ⟨y, hy, hxy⟩
  · cases hx

/-- The same names in any order. -/
theorem Alike.names_perm (h : Alike r xs ys) : (names xs).Perm (names ys) :=
  (List.perm_ext_iff_of_nodup h.left h.right).mpr fun _ => h.values.mem_names_iff

/-- Sorted, the names are **in one order**. -/
theorem Alike.sortedNames_eq (h : Alike r xs ys) : sortedNames xs = sortedNames ys := by
  have hperm : ∀ zs : Bindings Value, (sortedNames zs).Perm (names zs) := fun zs =>
    List.mergeSort_perm (names zs) _
  have hsorted : ∀ zs : Bindings Value, (sortedNames zs).Pairwise (· ≤ ·) := fun zs =>
    List.pairwise_mergeSort' (· ≤ ·) (names zs)
  exact (((hperm xs).trans h.names_perm).trans (hperm ys).symm).eq_of_pairwise'
    (hsorted xs) (hsorted ys)

theorem Alike.set (h : Alike r xs ys) (name : String) {x y : Value} (hxy : x.Alike r y) :
    Alike r (set name x xs) (set name y ys) where
  left := nodup_names_set h.left
  right := nodup_names_set h.right
  values other := by
    by_cases hother : other = name
    · rw [hother, get?_set_self, get?_set_self]
      exact .some hxy
    · rw [get?_set_ne hother, get?_set_ne hother]
      exact h.values other

/-- To bind **all entries** of mappings that are alike, in whatever order, gives mappings
    that are alike. -/
theorem Alike.setAll {us vs : Bindings Value} (h : Alike r xs ys) (h' : Alike r us vs) :
    Alike r (setAll xs us) (setAll ys vs) where
  left := nodup_names_setAll h.left
  right := nodup_names_setAll h.right
  values name := by
    rw [get?_setAll, get?_setAll, last?_eq_get? h'.left, last?_eq_get? h'.right]
    obtain ⟨u, v, hu, hv, huv⟩ | ⟨hu, hv⟩ := optionRel_cases (h'.values name)
    · rw [hu, hv]
      exact .some huv
    · rw [hu, hv]
      exact h.values name

/-- **Any two orders** of one mapping are alike. -/
theorem Alike.perm (h : Alike r xs ys) (hperm : ys.Perm zs) : Alike r xs zs := by
  have hnodup : (names zs).Nodup := (hperm.map Prod.fst).nodup_iff.mp h.right
  refine ⟨h.left, hnodup, fun name => ?_⟩
  have hget : get? name ys = get? name zs := by
    cases hy : get? name ys with
    | some y => rw [get?_eq_some_of_mem hnodup (hperm.mem_iff.mp (mem_of_get?_eq_some hy))]
    | none =>
      rw [get?_eq_none_iff] at hy
      rw [get?_eq_none_iff.mpr fun hmem => hy ((hperm.map Prod.fst).mem_iff.mpr hmem)]
  rw [← hget]
  exact h.values name

/-- Two mappings that are alike, **one of them rearranged**: entry by entry, the names
    are the same and the values alike. -/
theorem Alike.exists_perm (h : Alike r xs ys) :
    ∃ zs, xs.Perm zs ∧
      List.Forall₂ (fun x y => x.1 = y.1 ∧ x.2.Alike r y.2) zs ys := by
  have hvalue : ∀ entry ∈ ys, ∃ x, (entry.1, x) ∈ xs ∧ x.Alike r entry.2 := by
    intro entry hentry
    obtain ⟨x, hx, hxy⟩ := h.symm.exists_of_mem hentry
    exact ⟨x, mem_of_get?_eq_some hx, hxy.symm⟩
  choose! value hvalue using hvalue
  refine ⟨ys.map fun entry => (entry.1, value entry), ?_, ?_⟩
  · have hnames : names (ys.map fun entry => (entry.1, value entry)) = names ys := by
      rw [names, List.map_map]
      rfl
    have hnodup : (names (ys.map fun entry => (entry.1, value entry))).Nodup := hnames ▸ h.right
    have hsub : (ys.map fun entry => (entry.1, value entry)) ⊆ xs := by
      intro entry hentry
      obtain ⟨entry, hy, rfl⟩ := List.mem_map.mp hentry
      exact (hvalue entry hy).1
    -- As many entries under as many names, so that none of them is left out.
    have hlength : xs.length ≤ (ys.map fun entry => (entry.1, value entry)).length := by
      have hperm := h.names_perm.length_eq
      rw [names, names, List.length_map, List.length_map] at hperm
      rw [List.length_map, hperm]
    exact ((hnodup.of_map.subperm hsub).perm_of_length_le hlength).symm
  · rw [List.forall₂_map_left_iff]
    exact List.forall₂_same.mpr fun entry hentry => ⟨rfl, (hvalue entry hentry).2⟩

end alike

end Bindings

/-! ## The values of a world -/

/-- What a node is **identified** by has been given out. -/
def Value.IsIdentified (w : World) : Value → Prop
  | .function f => f.ident < w.nextIdent
  | .foreign x => x.ident < w.nextIdent
  | _ => True

/-- **A value of a world** is like itself if all places that it refers to are there,
    all identities have been given out, and mappings bind each name once. -/
theorem Value.alike_within {w : World} {v : Value}
    (hplaces : v.Within fun o => o.index < w.heap.size)
    (hidents : ∀ u ∈ v.nodes, u.IsIdentified w) (hnames : v.DistinctNames) :
    v.Alike (.within w) v := by
  -- The induction is on the size, since elements are nodes of the value.
  induction hn : v.size using Nat.strong_induction_on generalizing v with
  | _ n ih =>
    have helement : ∀ {a : Value}, a.IsElement v → a.Alike (.within w) a := fun ha =>
      ih _ (hn ▸ ha.size_lt)
        (fun u hu => hplaces u (Value.nodes_subset_of_mem _ ha.mem_nodes hu))
        (fun u hu => hidents u (Value.nodes_subset_of_mem _ ha.mem_nodes hu))
        (hnames.of_mem_nodes ha.mem_nodes) rfl
    cases v with
    | list items =>
      exact alike_list.mpr (List.forall₂_same.mpr fun a ha => helement (.list ha))
    | dict entries =>
      have hnodup := Comparison.names_nodup_of_distinctNames hnames
      refine .dict hnodup hnodup Iff.rfl fun {name x y} hx hy => ?_
      obtain rfl := Option.some.inj (hx.symm.trans hy)
      exact helement (.dict (Bindings.mem_of_get?_eq_some hx))
    | function f =>
      refine .function ⟨⟨rfl, hidents _ (Value.self_mem_nodes _)⟩, rfl, ?_⟩
      cases hbody : f.body with
      | bound receiver qualifiedName method =>
        exact .bound (Renaming.pairs_within (within_function.mp hplaces _ _ _ hbody))
          qualifiedName method
      | host => exact .host
    | foreign x => exact .foreign ⟨⟨rfl, hidents _ (Value.self_mem_nodes _)⟩, rfl⟩
    | object o => exact .object (Renaming.pairs_within (within_object.mp hplaces))
    | _ => constructor

end DynamicObjects
