import DynamicObjects.Proofs.Enumeration.Worlds
import DynamicObjects.Proofs.Heap.Methods
import DynamicObjects.Proofs.Types.Declaration

/-! # Conversions in another order

    New objects go to the next places.  So the entries of a mapping that are converted
    in another order become other objects, but the worlds are alike afterwards, along a
    renaming that has grown by the new places.

    The argument:
    1. Objects and functions that are added on both sides are paired with each other,
       and what is written to paired objects keeps them alike (`World.InStep`).
    2. So values that are alike become objects that are paired
       (`World.Alike.toObject`), and entries that are in one order as well.
    3. Two neighbours that change places are converted in both orders, and still each
       goes with itself (`World.InStep.exists_crossed`).  Any other order is reached
       through neighbours, one step after the other (`World.InStep.chain`).

    Main results:
    - `World.Alike.allocate`, `World.Alike.toObject`: new objects are paired
    - `World.Alike.toEntries`: the entries of mappings that are alike -/

namespace DynamicObjects

namespace Bindings

variable {α β : Type} {R : α → β → Prop} {xs : Bindings α} {ys : Bindings β}

theorem matches_cons {name : String} {x : α} {y : β} (hxy : R x y) (h : Matches R xs ys) :
    Matches R ((name, x) :: xs) ((name, y) :: ys) := by
  intro other
  rw [get?, get?]
  by_cases hname : name = other
  · rw [if_pos hname, if_pos hname]
    exact .some hxy
  · rw [if_neg hname, if_neg hname]
    exact h other

/-- Entries of different names may **change places**. -/
theorem matches_swap {name other : String} (hne : name ≠ other) {x u : α} {y v : β} (hxy : R x y)
    (huv : R u v) (h : Matches R xs ys) :
    Matches R ((name, x) :: (other, u) :: xs) ((other, v) :: (name, y) :: ys) := by
  intro key
  simp only [get?]
  by_cases hname : name = key
  · rw [if_pos hname, if_neg fun hother => hne (hname.trans hother.symm), if_pos hname]
    exact .some hxy
  · rw [if_neg hname, if_neg hname]
    by_cases hother : other = key
    · rw [if_pos hother, if_pos hother]
      exact .some huv
    · rw [if_neg hother, if_neg hother]
      exact h key

end Bindings

namespace World

/-! ## In step -/

/-- Two worlds that were alike have gone on **in step**: they are alike again, and none
    of what is new has been left out. -/
structure InStep (r : Renaming) (w w' : World) (r₁ : Renaming) (w₁ w₁' : World) : Prop where
  alike : w₁.Alike r₁ w₁'
  places : r.places.Onward w.heap.size w'.heap.size r₁.places w₁.heap.size w₁'.heap.size
  idents : r.idents.Onward w.nextIdent w'.nextIdent r₁.idents w₁.nextIdent w₁'.nextIdent

/-- Two changes in step have given objects that are **paired**. -/
def GiveAlike (r : Renaming) (w w' : World) (a a' : ObjectId × World) : Prop :=
  ∃ r₁, InStep r w w' r₁ a.2 a'.2 ∧ r₁.Pairs a.1 a'.1

section step
variable {r r₁ r₂ : Renaming} {w w' w₁ w₁' w₂ w₂' : World}

theorem InStep.le (h : InStep r w w' r₁ w₁ w₁') : r ≤ r₁ := ⟨h.places.le, h.idents.le⟩

theorem Alike.inStep_refl (h : w.Alike r w') : InStep r w w' r w w' :=
  ⟨h, Pairing.onward_refl h.places, Pairing.onward_refl h.idents⟩

theorem InStep.trans (h₁ : InStep r w w' r₁ w₁ w₁') (h₂ : InStep r₁ w₁ w₁' r₂ w₂ w₂') :
    InStep r w w' r₂ w₂ w₂' :=
  ⟨h₂.alike, h₁.places.trans h₂.places, h₁.idents.trans h₂.idents⟩

/-- Worlds that are isomorphic stay so **in step**. -/
theorem InStep.isomorphic (h₁ : InStep r w w' r₁ w₁ w₁') (h : w.Isomorphic r w') :
    w₁.Isomorphic r₁ w₁' where
  toAlike := h₁.alike
  left i hi := by
    by_cases hold : i < w.heap.size
    · exact (h.left i hold).imp fun _ hij => h₁.le.1 hij
    · exact h₁.places.left i (Nat.le_of_not_lt hold) hi
  right j hj := by
    by_cases hold : j < w'.heap.size
    · exact (h.right j hold).imp fun _ hij => h₁.le.1 hij
    · exact h₁.places.right j (Nat.le_of_not_lt hold) hj

/-- **Along a chain**: from the first world to itself, and from there to the second. -/
theorem InStep.chain (h : w.Alike r w') (h₁ : InStep (r.trans r.symm) w w r₁ w₁ w₂)
    (h₂ : InStep r w w' r₂ w₂ w₁') : InStep r w w' (r₁.trans r₂) w₁ w₁' where
  alike := h₁.alike.trans h₂.alike
  places := .chain h.places h₁.places h₂.places
  idents := .chain h.idents h₁.idents h₂.idents

/-- Worlds **stay alike** while they grow. -/
theorem Alike.grow (h : w.Alike r w') (hl : w.Grows w₁) (hli : w.nextIdent ≤ w₁.nextIdent)
    (hr : w'.Grows w₁') (hri : w'.nextIdent ≤ w₁'.nextIdent) : w₁.Alike r w₁' where
  places hij := ⟨Nat.lt_of_lt_of_le (h.places hij).1 hl.size_le,
    Nat.lt_of_lt_of_le (h.places hij).2 hr.size_le⟩
  idents hij := ⟨Nat.lt_of_lt_of_le (h.idents hij).1 hli,
    Nat.lt_of_lt_of_le (h.idents hij).2 hri⟩
  declared_eq := (hl.declared_eq.trans h.declared_eq).trans hr.declared_eq.symm
  singletons := h.singletons
  object? {o p} hop := by
    rw [hl.object?_eq (h.places hop).1, hr.object?_eq (h.places hop).2]
    exact h.object? hop

/-- **In both orders**: what has been done first on one side is done second on the other,
    both times in step. -/
theorem InStep.exists_crossed (h : w.Alike r w') (hl : w₁.Grows w₂) (hr : w₁'.Grows w₂')
    (h₁ : InStep r w w₁' r₁ w₁ w₂') (h₂ : InStep r w₁ w' r₂ w₂ w₁') :
    ∃ r₃, InStep r w w' r₃ w₂ w₂' ∧ r₁ ≤ r₃ ∧ r₂ ≤ r₃ := by
  obtain ⟨places, hplaces, hp₁, hp₂, hp⟩ :=
    Pairing.Onward.exists_crossed h.places h₁.places h₂.places
  obtain ⟨idents, hidents, hi₁, hi₂, -⟩ :=
    Pairing.Onward.exists_crossed h.idents h₁.idents h₂.idents
  refine ⟨⟨places, idents⟩, ⟨?_, hplaces, hidents⟩, ⟨hp₁, hi₁⟩, ⟨hp₂, hi₂⟩⟩
  constructor
  case places => exact hplaces.below
  case idents => exact hidents.below
  case declared_eq => exact hl.declared_eq.trans h₁.alike.declared_eq
  case singletons => exact fun o ho => hplaces.le (h.singletons o ho)
  case object? =>
    intro o p hop
    -- What one of the steps has paired is not touched by the other one.
    rcases hp hop with hop | hop
    · rw [hl.object?_eq (h₁.places.below hop).1]
      exact optionRel_mono (h₁.alike.object? hop) fun hxy => hxy.mono ⟨hp₁, hi₁⟩
    · rw [hr.object?_eq (h₂.places.below hop).2]
      exact optionRel_mono (h₂.alike.object? hop) fun hxy => hxy.mono ⟨hp₂, hi₂⟩

end step

/-! ## New objects -/

section changes
variable {r : Renaming} {w w' : World} {o p : ObjectId} (h : w.Alike r w')
include h

theorem Alike.freshIdent :
    ∃ r₁, InStep r w w' r₁ w.freshIdent.2 w'.freshIdent.2 ∧
      r₁.idents.rel w.nextIdent w'.nextIdent := by
  have hidents := Pairing.onward_insert h.idents
  refine ⟨⟨r.places, r.idents.insert _ _ h.idents⟩,
    ⟨?_, Pairing.onward_refl h.places, hidents⟩, .inr ⟨rfl, rfl⟩⟩
  exact ⟨h.places, hidents.below, h.declared_eq, h.singletons,
    fun hop => optionRel_mono (h.object? hop) fun hxy => hxy.mono ⟨id, hidents.le⟩⟩

theorem Alike.add {x y : Object} (hxy : x.Alike r y) :
    GiveAlike r w w' (w.add x) (w'.add y) := by
  have hplaces := Pairing.onward_insert h.places
  rw [← size_add w x, ← size_add w' y] at hplaces
  have hle : r ≤ ⟨r.places.insert _ _ h.places, r.idents⟩ := ⟨hplaces.le, id⟩
  refine ⟨⟨r.places.insert _ _ h.places, r.idents⟩,
    ⟨?_, hplaces, Pairing.onward_refl h.idents⟩, .inr ⟨rfl, rfl⟩⟩
  constructor
  case places => exact hplaces.below
  case idents => exact h.idents
  case declared_eq => exact h.declared_eq
  case singletons => exact fun o ho => hplaces.le (h.singletons o ho)
  case object? =>
    rintro o p (hop | ⟨ho, hp⟩)
    · rw [object?_add_old w x (h.places hop).1, object?_add_old w' y (h.places hop).2]
      exact optionRel_mono (h.object? hop) fun hxy => hxy.mono hle
    · rw [object?_add, object?_add, if_pos ho, if_pos hp]
      exact .some (hxy.mono hle)

/-- A change of paired objects that keeps them alike keeps the worlds **in step**. -/
theorem Alike.update (hop : r.Pairs o p) {f g : Object → Object}
    (hfg : ∀ {x y : Object}, x.Alike r y → (f x).Alike r (g y)) :
    InStep r w w' r (w.update o f) (w'.update p g) := by
  have hplaces : r.places.Below (w.update o f).heap.size (w'.update p g).heap.size := by
    rw [size_update, size_update]
    exact h.places
  refine ⟨?_, ?_, Pairing.onward_refl h.idents⟩
  · constructor
    case places => exact hplaces
    case idents => exact h.idents
    case declared_eq => exact h.declared_eq
    case singletons => exact h.singletons
    case object? =>
      intro o' p' hop'
      rw [object?_update, object?_update]
      -- Paired places are changed together or not at all.
      by_cases ho : o' = o
      · rw [if_pos ho, if_pos ((hop'.eq_iff hop).mp ho)]
        obtain ⟨x, y, hx, hy, hxy⟩ | ⟨hx, hy⟩ := optionRel_cases (h.object? hop')
        · rw [hx, hy]
          exact .some (hfg hxy)
        · rw [hx, hy]
          exact .none
      · rw [if_neg ho, if_neg fun hp => ho ((hop'.eq_iff hop).mpr hp)]
        exact h.object? hop'
  · rw [size_update, size_update]
    exact Pairing.onward_refl h.places

theorem Alike.setProperty (hop : r.Pairs o p) (name : String) {v v' : Value}
    (hv : v.Alike r v') : InStep r w w' r (w.setProperty o name v) (w'.setProperty p name v') :=
  h.update hop fun hxy => hxy.setProperty name hv

/-- **A native method** becomes a function of its own, with an identity of its own. -/
theorem Alike.install (hop : r.Pairs o p) (typeName name : String) (body : MethodBody) :
    ∃ r₁, InStep r w w' r₁ (w.install o typeName (name, .native body))
      (w'.install p typeName (name, .native body)) := by
  obtain ⟨r₁, hident, hidents⟩ := h.freshIdent
  have hfunction : (Value.function (boundMethod w.nextIdent o typeName name body)).Alike r₁
      (.function (boundMethod w'.nextIdent p typeName name body)) :=
    .function ⟨hidents, rfl, .bound (hop.mono hident.le) _ _⟩
  obtain ⟨r₂, hadd, hm⟩ := hident.alike.add
    ((Object.alike_bare .function).setProperty payloadName hfunction)
  have hset := hadd.alike.setProperty ((hop.mono hident.le).mono hadd.le) name (.object hm)
  exact ⟨r₂, (hident.trans hadd).trans hset⟩

omit h in
theorem Alike.install_all {methods : Bindings Method} (h : w.Alike r w') (hop : r.Pairs o p)
    (typeName : String) (hnative : ∀ entry ∈ methods, ∃ body, entry.2 = .native body) :
    ∃ r₁, InStep r w w' r₁ (methods.foldl (World.install o typeName) w)
      (methods.foldl (World.install p typeName) w') := by
  induction methods generalizing r w w' with
  | nil => exact ⟨r, h.inStep_refl⟩
  | cons entry rest ih =>
    obtain ⟨name, method⟩ := entry
    obtain ⟨body, rfl⟩ := hnative (name, method) List.mem_cons_self
    obtain ⟨r₁, hfirst⟩ := h.install hop typeName name body
    obtain ⟨r₂, hrest⟩ := ih hfirst.alike (hop.mono hfirst.le)
      fun other hother => hnative other (List.mem_cons_of_mem _ hother)
    exact ⟨r₂, hfirst.trans hrest⟩

/-- **New objects** of a type that shares nothing among its objects are paired. -/
theorem Alike.allocate {T : TypeDescriptor} (hT : T.sharedMethods = []) :
    GiveAlike r w w' (w.allocate T) (w'.allocate T) := by
  obtain ⟨r₁, hadd, hnew⟩ := h.add (Object.alike_bare T)
  have hnative : ∀ entry ∈ T.methods, ∃ body, entry.2 = .native body := by
    intro entry hentry
    cases hmethod : entry.2 with
    | native body => exact ⟨body, rfl⟩
    | shared callable =>
      have hmem : callable ∈ T.sharedMethods :=
        List.mem_filterMap.mpr ⟨entry, hentry, by rw [hmethod]⟩
      rw [hT] at hmem
      cases hmem
  obtain ⟨r₂, hinstall⟩ := hadd.alike.install_all hnew T.name hnative
  exact ⟨r₂, hadd.trans hinstall, hnew.mono hinstall.le⟩

theorem Alike.allocate_builtin {T : TypeDescriptor} (hT : T ∈ TypeDescriptor.builtins) :
    GiveAlike r w w' (w.allocate T) (w'.allocate T) :=
  h.allocate (TypeDescriptor.builtins_share_nothing T hT).1

theorem Alike.box {v v' : Value} (hv : v.Alike r v') {T : TypeDescriptor}
    (hT : typeFor? v = some T) : GiveAlike r w w' (w.box T v) (w'.box T v') := by
  obtain ⟨r₁, hallocate, hnew⟩ := h.allocate_builtin (mem_builtins_of_typeFor? hT)
  have hset := hallocate.alike.setProperty hnew payloadName (hv.mono hallocate.le)
  exact ⟨r₁, hallocate.trans hset, hnew⟩

end changes

/-! ## Conversions -/

mutual

/-- **Values that are alike** become paired objects. -/
theorem Alike.toObject {r : Renaming} {w w' : World} (h : w.Alike r w') {v v' : Value}
    (hv : v.Alike r v') : GiveAlike r w w' (w.toObject v) (w'.toObject v') := by
  match v with
  | .null =>
    cases hv
    exact ⟨r, h.inStep_refl, h.pairs_nullObject⟩
  | .bool b =>
    cases hv
    exact ⟨r, h.inStep_refl, h.pairs_boolObject b⟩
  | .object o =>
    cases hv with
    | object hop => exact ⟨r, h.inStep_refl, hop⟩
  | .int _ | .float _ | .complex _ | .text _ | .function _ | .dict _ | .foreign _ =>
    have hboth := hv
    cases hv
    exact h.box hboth rfl
  | .list items =>
    cases v' with
    | list items' =>
      have harray : typeFor? (.list items) = some .array := rfl
      -- Each step makes the pairing grow: the arrays, their elements, what the arrays hold.
      obtain ⟨r₁, hallocate, hnew⟩ := h.allocate_builtin (mem_builtins_of_typeFor? harray)
      obtain ⟨r₂, helements, hitems⟩ := hallocate.alike.toObjects
        ((Value.alike_list.mp hv).imp fun _ _ hxy => hxy.mono hallocate.le)
      have hset := helements.alike.setProperty (hnew.mono helements.le) payloadName
        (Value.alike_list.mpr hitems)
      rw [toObject_list, toObject_list]
      exact ⟨r₂, (hallocate.trans helements).trans hset, hnew.mono helements.le⟩
    | _ => cases hv

theorem Alike.toObjects {r : Renaming} {w w' : World} (h : w.Alike r w')
    {items items' : List Value} (hitems : List.Forall₂ (Value.Alike r) items items') :
    ∃ r₁, InStep r w w' r₁ (w.toObjects items).2 (w'.toObjects items').2 ∧
      List.Forall₂ (Value.Alike r₁) (w.toObjects items).1 (w'.toObjects items').1 := by
  match items, hitems with
  | [], .nil => exact ⟨r, h.inStep_refl, .nil⟩
  | v :: rest, .cons hv hrest =>
    obtain ⟨r₁, hfirst, hop⟩ := h.toObject hv
    obtain ⟨r₂, hothers, hobjects⟩ := hfirst.alike.toObjects
      (hrest.imp fun _ _ hxy => hxy.mono hfirst.le)
    exact ⟨r₂, hfirst.trans hothers, .cons (.object (hop.mono hothers.le)) hobjects⟩

end

/-! ## Mappings -/

theorem toEntries_cons (w : World) (entry : String × Value) (rest : Bindings Value) :
    w.toEntries (entry :: rest) =
      ((entry.1, .object (w.toObject entry.2).1) :: ((w.toObject entry.2).2.toEntries rest).1,
        ((w.toObject entry.2).2.toEntries rest).2) := rfl

theorem toObject_nextIdent_le (w : World) (v : Value) :
    w.nextIdent ≤ (w.toObject v).2.nextIdent := (toObject_builds_any w v).nextIdent_le

/-- Two changes in step have given mappings with **paired** objects. -/
def GiveEntriesAlike (r : Renaming) (w w' : World) (a a' : Bindings Value × World) : Prop :=
  ∃ r₁, InStep r w w' r₁ a.2 a'.2 ∧ Bindings.Matches (Value.Alike r₁) a.1 a'.1

section entries
variable {r : Renaming} {w w' : World}

theorem GiveEntriesAlike.chain (h : w.Alike r w') {a b c : Bindings Value × World}
    (h₁ : GiveEntriesAlike (r.trans r.symm) w w a b) (h₂ : GiveEntriesAlike r w w' b c) :
    GiveEntriesAlike r w w' a c := by
  obtain ⟨r₁, hstep₁, hmatches₁⟩ := h₁
  obtain ⟨r₂, hstep₂, hmatches₂⟩ := h₂
  refine ⟨r₁.trans r₂, InStep.chain h hstep₁ hstep₂, fun name => ?_⟩
  exact optionRel_mono (hmatches₁.comp hmatches₂ name) fun ⟨_, hab, hbc⟩ => hab.trans hbc

/-- Entry by entry, **in one order**. -/
theorem Alike.toEntries_zip (h : w.Alike r w') {xs ys : Bindings Value}
    (hentries : List.Forall₂ (fun x y => x.1 = y.1 ∧ x.2.Alike r y.2) xs ys) :
    GiveEntriesAlike r w w' (w.toEntries xs) (w'.toEntries ys) := by
  induction xs generalizing r w w' ys with
  | nil =>
    cases hentries
    exact ⟨r, h.inStep_refl, fun _ => .none⟩
  | cons x rest ih =>
    obtain ⟨y, rest', ⟨hname, hxy⟩, hrest, rfl⟩ := List.forall₂_cons_left_iff.mp hentries
    obtain ⟨r₁, hfirst, hop⟩ := h.toObject hxy
    obtain ⟨r₂, hothers, hmatches⟩ := ih hfirst.alike
      (hrest.imp fun _ _ hxy => ⟨hxy.1, hxy.2.mono hfirst.le⟩)
    rw [toEntries_cons, toEntries_cons, hname]
    exact ⟨r₂, hfirst.trans hothers,
      Bindings.matches_cons (.object (hop.mono hothers.le)) hmatches⟩

/-- The entries of one mapping **in two orders**: each value is like itself. -/
theorem Alike.toEntries_perm (h : w.Alike r w') {xs ys : Bindings Value} (hperm : xs.Perm ys)
    (hnames : (Bindings.names xs).Nodup) (hself : ∀ entry ∈ xs, entry.2.Alike r entry.2) :
    GiveEntriesAlike r w w' (w.toEntries xs) (w'.toEntries ys) := by
  induction hperm generalizing r w w' with
  | nil => exact ⟨r, h.inStep_refl, fun _ => .none⟩
  | @cons entry xs ys hperm ih =>
    obtain ⟨hv, hrest⟩ := List.forall_mem_cons.mp hself
    obtain ⟨r₁, hfirst, hop⟩ := h.toObject hv
    obtain ⟨r₂, hothers, hmatches⟩ := ih hfirst.alike (List.nodup_cons.mp hnames).2
      fun other hother => (hrest other hother).mono hfirst.le
    rw [toEntries_cons, toEntries_cons]
    exact ⟨r₂, hfirst.trans hothers,
      Bindings.matches_cons (.object (hop.mono hothers.le)) hmatches⟩
  | swap x y l =>
    obtain ⟨hy, hrest⟩ := List.forall_mem_cons.mp hself
    obtain ⟨hx, hl⟩ := List.forall_mem_cons.mp hrest
    have hne : y.1 ≠ x.1 := by
      intro heq
      exact (List.nodup_cons.mp hnames).1 (heq ▸ List.mem_cons_self)
    -- Each is converted beside a world that has made the other one or has not yet.
    obtain ⟨r₁, h₁, hoy⟩ := (h.grow (.refl w) (Nat.le_refl _) (w'.toObject_grows x.2)
      (w'.toObject_nextIdent_le x.2)).toObject hy
    obtain ⟨r₂, h₂, hox⟩ := (h.grow (w.toObject_grows y.2) (w.toObject_nextIdent_le y.2)
      (.refl w') (Nat.le_refl _)).toObject hx
    obtain ⟨r₃, h₃, hle₁, hle₂⟩ := InStep.exists_crossed h (toObject_grows _ x.2)
      (toObject_grows _ y.2) h₁ h₂
    obtain ⟨r₄, h₄, hmatches⟩ := h₃.alike.toEntries_zip (List.forall₂_same.mpr fun entry hentry =>
      ⟨rfl, (hl entry hentry).mono h₃.le⟩)
    simp only [toEntries_cons]
    exact ⟨r₄, h₃.trans h₄, Bindings.matches_swap hne (.object ((hoy.mono hle₁).mono h₄.le))
      (.object ((hox.mono hle₂).mono h₄.le)) hmatches⟩
  | @trans xs ys zs hperm hperm' ih ih' =>
    have hfirst := ih h.self hnames fun entry hentry =>
      (hself entry hentry).trans (hself entry hentry).symm
    exact hfirst.chain h (ih' h ((hperm.map Prod.fst).nodup_iff.mp hnames)
      fun entry hentry => hself entry (hperm.mem_iff.mpr hentry))

/-- **The entries of a mapping**, in whatever order, become paired objects. -/
theorem Alike.toEntries (h : w.Alike r w') {xs ys : Bindings Value}
    (hentries : Bindings.Alike r xs ys) :
    ∃ r₁, InStep r w w' r₁ (w.toEntries xs).2 (w'.toEntries ys).2 ∧
      Bindings.Alike r₁ (w.toEntries xs).1 (w'.toEntries ys).1 := by
  obtain ⟨zs, hperm, hzip⟩ := hentries.exists_perm
  have hself : ∀ entry ∈ xs, entry.2.Alike (r.trans r.symm) entry.2 := by
    intro entry hentry
    obtain ⟨x, -, hx⟩ := hentries.exists_of_mem hentry
    exact hx.trans hx.symm
  -- The entries are rearranged on the first side, and then go on in step with the second.
  have hrearranged := h.self.toEntries_perm hperm hentries.left hself
  obtain ⟨r₁, hstep, hmatches⟩ := hrearranged.chain h (h.toEntries_zip hzip)
  refine ⟨r₁, hstep, ?_, ?_, hmatches⟩
  · rw [Behaviour.names_toEntries]
    exact hentries.left
  · rw [Behaviour.names_toEntries]
    exact hentries.right

end entries

end World

end DynamicObjects
