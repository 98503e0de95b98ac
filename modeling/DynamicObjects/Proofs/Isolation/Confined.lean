import DynamicObjects.Proofs.Isolation.Beside
import DynamicObjects.Proofs.Types.Declaration

/-! # Declarations are confined

    What a declaration adds refers to what it adds and to singletons, and to
    nothing else that exists.  So it keeps nothing alive.

    The places in question contain all those from some place on, which is where
    new objects go.

    Main results:
    - `World.Confined.toEntries`: conversions add confined objects
    - `Operation.Records.confined`: and so do declarations -/

namespace DynamicObjects

/-- A value **stays within** some places if it refers to objects there and to
    singletons only. -/
def Value.StaysWithin (K : Places) (v : Value) : Prop :=
  ∀ p ∈ v.references, K p ∨ p ∈ World.singletons

section values
variable {K : Places}

@[simp] theorem Value.staysWithin_text (s : String) : (Value.text s).StaysWithin K := by
  simp [StaysWithin, references]

@[simp] theorem Value.staysWithin_int (n : Int64) : (Value.int n).StaysWithin K := by
  simp [StaysWithin, references]

theorem Value.staysWithin_object {o : ObjectId} :
    (Value.object o).StaysWithin K ↔ K o ∨ o ∈ World.singletons := by
  simp [StaysWithin, references]

theorem Value.staysWithin_list {items : List Value} :
    (Value.list items).StaysWithin K ↔ ∀ v ∈ items, v.StaysWithin K := by
  rw [StaysWithin, references]
  induction items with
  | nil => simp [referencesList]
  | cons v rest ih =>
    simp only [referencesList, List.mem_append, List.forall_mem_cons, or_imp, forall_and]
    exact and_congr Iff.rfl ih

theorem Value.staysWithin_dict {entries : Bindings Value} :
    (Value.dict entries).StaysWithin K ↔ ∀ entry ∈ entries, entry.2.StaysWithin K := by
  rw [StaysWithin, references]
  induction entries with
  | nil => simp [referencesEntries]
  | cons entry rest ih =>
    simp only [referencesEntries, List.mem_append, List.forall_mem_cons, or_imp, forall_and]
    exact and_congr Iff.rfl ih

theorem Object.mem_references {x : Object} {p : ObjectId} :
    p ∈ x.references ↔ (∃ entry ∈ x.properties, p ∈ entry.2.references) ∨
      p ∈ x.type.sharedMethods := by
  rw [references, List.mem_append, List.mem_flatMap]

end values

namespace World

section changes
variable {K : Apart} {w : World}

theorem Confined.congr {w₁ : World} (h : w.Confined K)
    (hobject? : ∀ o, w₁.object? o = w.object? o) : w₁.Confined K := by
  intro o x ho hx
  rw [hobject?] at hx
  exact h ho hx

theorem Confined.update (h : w.Confined K) (o : ObjectId) {f : Object → Object}
    (hf : ∀ x, ConfinedObject K x → ConfinedObject K (f x)) : (w.update o f).Confined K := by
  intro p x hp hx
  rw [object?_update] at hx
  split at hx
  · obtain ⟨y, hy, rfl⟩ := Option.map_eq_some_iff.mp hx
    exact hf y (h hp hy)
  · exact h hp hx

/-- Bindings that stay within the places may be published. -/
theorem ConfinedObject.setAll {x y : Object} (hx : ConfinedObject K x) {entries : Bindings Value}
    (htype : y.type = x.type) (hproperties : y.properties = x.properties.setAll entries)
    (hentries : ∀ entry ∈ entries, entry.2.StaysWithin K.objects) : ConfinedObject K y := by
  refine ⟨htype ▸ hx.type, fun p hp => ?_⟩
  rw [Object.mem_references, htype, hproperties] at hp
  rcases hp with ⟨entry, hentry, hp⟩ | hp
  · rcases Bindings.mem_setAll hentry with hentry | hentry
    · exact hentries entry hentry p hp
    · exact hx.references p (Object.mem_references.mpr (.inl ⟨entry, hentry, hp⟩))
  · exact hx.references p (Object.mem_references.mpr (.inr hp))

theorem Confined.setProperties (h : w.Confined K) (o : ObjectId) {entries : Bindings Value}
    (hentries : ∀ entry ∈ entries, entry.2.StaysWithin K.objects) :
    (w.setProperties o entries).Confined K :=
  h.update o fun _ hx => hx.setAll rfl rfl hentries

theorem Confined.setProperty (h : w.Confined K) (o : ObjectId) (name : String) {v : Value}
    (hv : v.StaysWithin K.objects) : (w.setProperty o name v).Confined K := by
  have hentries : ∀ entry ∈ [(name, v)], entry.2.StaysWithin K.objects :=
    List.forall_mem_singleton.mpr hv
  rw [setProperty_eq_setProperties]
  exact h.setProperties o hentries

theorem Confined.add (h : w.Confined K) {x : Object} (hx : ConfinedObject K x) :
    (w.add x).2.Confined K := by
  intro o y ho hy
  rw [object?_add] at hy
  split at hy
  · obtain rfl := Option.some.inj hy
    exact hx
  · exact h ho hy

/-- Neither builtin types nor structs share anything. -/
theorem confinedObject_bare {T : TypeDescriptor} (hT : T ∈ TypeDescriptor.builtins ∨
    ∃ shape n, T = .struct shape (.declared n) ∧ K.idents n) : ConfinedObject K (.bare T) := by
  have hshared : T.sharedMethods = [] := by
    rcases hT with hT | ⟨shape, n, rfl, -⟩
    · exact (TypeDescriptor.builtins_share_nothing T hT).1
    · rfl
  refine ⟨hT, fun p hp => ?_⟩
  rcases Object.mem_references.mp hp with ⟨entry, hentry, -⟩ | hp
  · cases hentry
  · rw [show (Object.bare T).type.sharedMethods = [] from hshared] at hp
    cases hp

/-- The identity of a new struct is set apart. -/
theorem Confined.structDeclared (h : w.Confined K) (shape : StructShape)
    (hident : K.idents w.nextIdent) : (w.structDeclared shape).Confined K := by
  have hdeclared : (w.freshIdent.2.declareType (w.structType shape)).Confined K :=
    h.congr fun _ => rfl
  have hbare := confinedObject_bare (.inr ⟨shape, w.nextIdent, rfl, hident⟩)
  exact (hdeclared.add hbare).setProperty _ _ (Value.staysWithin_text _)

/-- A clone refers to what its prototype refers to. -/
theorem Confined.cloned (h : w.Confined K) {shape : StructShape} {n : Nat} (hn : K.idents n)
    {prototype : ObjectId} (hprototype : K.objects prototype) :
    (w.cloned (.struct shape (.declared n)) prototype).Confined K := by
  have hadd := h.add (confinedObject_bare (.inr ⟨shape, n, rfl, hn⟩))
  -- All that the clone is given comes from the prototype, which is confined.
  refine hadd.setProperties _ fun entry hentry p hp => ?_
  rw [object] at hentry
  cases hx : (w.add (.bare (.struct shape (.declared n)))).2.object? prototype with
  | none =>
    rw [hx] at hentry
    cases hentry
  | some x =>
    rw [hx] at hentry
    exact (hadd hprototype hx).references p (Object.mem_references.mpr (.inl ⟨entry, hentry, hp⟩))

end changes

/-! ## New objects -/

section building
variable {K : Apart} {n : Nat} (hK : ∀ o : ObjectId, n ≤ o.index → K.objects o)
include hK

theorem Confined.install_all {w : World} (h : w.Confined K) (hn : n ≤ w.heap.size)
    (receiver : ObjectId) (typeName : String) {methods : Bindings Method}
    (hmethods : ∀ entry ∈ methods, ∃ body, entry.2 = .native body) :
    (methods.foldl (World.install receiver typeName) w).Confined K := by
  induction methods generalizing w with
  | nil => exact h
  | cons entry rest ih =>
    obtain ⟨name, method⟩ := entry
    obtain ⟨body, rfl⟩ := hmethods (name, method) List.mem_cons_self
    have hident : w.freshIdent.2.Confined K := h.congr fun _ => rfl
    have hnew : (Value.object ⟨w.heap.size⟩).StaysWithin K.objects :=
      Value.staysWithin_object.mpr (.inl (hK _ hn))
    refine ih ((hident.add ⟨.inl ?_, ?_⟩).setProperty receiver name hnew) ?_
      fun other hother => hmethods other (List.mem_cons_of_mem _ hother)
    · change TypeDescriptor.function ∈ _
      simp [TypeDescriptor.builtins]
    · -- A function owns nothing, not even its receiver.
      intro p hp
      cases hp
    · have hsize : (w.install receiver typeName (name, .native body)).heap.size =
          w.heap.size + 1 := by
        rw [install, size_setProperty, size_add]
        rfl
      omega

theorem Confined.allocate {w : World} (h : w.Confined K) (hn : n ≤ w.heap.size)
    {T : TypeDescriptor} (hT : T ∈ TypeDescriptor.builtins) : (w.allocate T).2.Confined K := by
  refine (h.add (confinedObject_bare (.inl hT))).install_all hK ?_ ⟨w.heap.size⟩ T.name
    fun entry hentry => ?_
  · rw [size_add]
    exact Nat.le_succ_of_le hn
  · cases hmethod : entry.2 with
    | native body => exact ⟨body, rfl⟩
    | shared callable =>
      have hcallable : callable ∈ T.sharedMethods :=
        List.mem_filterMap.mpr ⟨entry, hentry, by rw [hmethod]⟩
      rw [(TypeDescriptor.builtins_share_nothing T hT).1] at hcallable
      cases hcallable

theorem Confined.box {w : World} (h : w.Confined K) (hn : n ≤ w.heap.size) {v : Value}
    (hv : v.StaysWithin K.objects) {T : TypeDescriptor} (hT : typeFor? v = some T) :
    (w.box T v).2.Confined K ∧ (Value.object (w.box T v).1).StaysWithin K.objects := by
  refine ⟨(h.allocate hK hn (mem_builtins_of_typeFor? hT)).setProperty _ _ hv, ?_⟩
  exact Value.staysWithin_object.mpr (.inl (hK _ hn))

end building

section conversions
variable {K : Apart} {n : Nat}

mutual

/-- **Conversions** of values that stay within the places. -/
theorem Confined.toObject (hK : ∀ o : ObjectId, n ≤ o.index → K.objects o) {w : World}
    (h : w.Confined K) (hn : n ≤ w.heap.size) {v : Value} (hv : v.StaysWithin K.objects) :
    (w.toObject v).2.Confined K ∧ (Value.object (w.toObject v).1).StaysWithin K.objects := by
  match v with
  | .null | .bool true | .bool false =>
    exact ⟨h, Value.staysWithin_object.mpr
      (.inr (by simp [World.toObject, singletons, boolObject]))⟩
  | .object o => exact ⟨h, hv⟩
  | .int _ | .float _ | .complex _ | .text _ | .function _ | .dict _ | .foreign _ =>
    exact h.box hK hn hv rfl
  | .list items =>
    have hlt := w.size_lt_allocate .array
    have harray : typeFor? (.list items) = some .array := rfl
    have hitems := (h.allocate hK hn (mem_builtins_of_typeFor? harray)).toObjects hK
      (Nat.le_trans hn (Nat.le_of_lt hlt)) (Value.staysWithin_list.mp hv)
    rw [toObject_list]
    refine ⟨hitems.1.setProperty _ _ (Value.staysWithin_list.mpr hitems.2), ?_⟩
    exact Value.staysWithin_object.mpr (.inl (hK _ hn))

theorem Confined.toObjects (hK : ∀ o : ObjectId, n ≤ o.index → K.objects o) {w : World}
    (h : w.Confined K) (hn : n ≤ w.heap.size) {items : List Value}
    (hitems : ∀ v ∈ items, v.StaysWithin K.objects) :
    (w.toObjects items).2.Confined K ∧
      ∀ v ∈ (w.toObjects items).1, v.StaysWithin K.objects := by
  match items with
  | [] => exact ⟨h, fun v hv => absurd hv List.not_mem_nil⟩
  | v :: rest =>
    have hfirst := h.toObject hK hn (hitems v List.mem_cons_self)
    have hothers := hfirst.1.toObjects hK (Nat.le_trans hn (w.toObject_later v).size_le)
      fun u hu => hitems u (List.mem_cons_of_mem _ hu)
    exact ⟨hothers.1, List.forall_mem_cons.mpr ⟨hfirst.2, hothers.2⟩⟩

end

variable (hK : ∀ o : ObjectId, n ≤ o.index → K.objects o)
include hK

theorem Confined.toEntries {w : World} (h : w.Confined K) (hn : n ≤ w.heap.size)
    {entries : Bindings Value} (hentries : ∀ entry ∈ entries, entry.2.StaysWithin K.objects) :
    (w.toEntries entries).2.Confined K ∧
      ∀ entry ∈ (w.toEntries entries).1, entry.2.StaysWithin K.objects := by
  induction entries generalizing w with
  | nil => exact ⟨h, fun entry hentry => absurd hentry List.not_mem_nil⟩
  | cons entry rest ih =>
    have hfirst := h.toObject hK hn (hentries entry List.mem_cons_self)
    have hothers := ih hfirst.1 (Nat.le_trans hn (w.toObject_later entry.2).size_le)
      fun other hother => hentries other (List.mem_cons_of_mem _ hother)
    exact ⟨hothers.1, List.forall_mem_cons.mpr ⟨hfirst.2, hothers.2⟩⟩

/-! ## Instances and modules -/

theorem Confined.published {w : World} (h : w.Confined K) (hn : n ≤ w.heap.size)
    (this : ObjectId) {entries : Bindings Value}
    (hentries : ∀ entry ∈ entries, entry.2.StaysWithin K.objects) :
    (Behaviour.published w this entries).Confined K := by
  have hwindow : (w.setUnderConstruction this true).Confined K :=
    h.update this fun _ hx => ⟨hx.type, hx.references⟩
  have hconverted := hwindow.toEntries hK (by rwa [setUnderConstruction, size_update]) hentries
  exact hconverted.1.update this fun _ hx => hx.setAll rfl rfl hconverted.2

theorem Confined.moduleMade {w : World} (h : w.Confined K) (hn : n ≤ w.heap.size)
    (name : String) {entries : Bindings Value}
    (hentries : ∀ entry ∈ entries, entry.2.StaysWithin K.objects) :
    (w.moduleMade name entries).Confined K := by
  have hmodule : TypeDescriptor.module ∈ TypeDescriptor.builtins := by
    simp [TypeDescriptor.builtins]
  have hadd := h.add (confinedObject_bare (.inl hmodule))
  have hconverted := hadd.toEntries hK (by rw [size_add]; exact Nat.le_succ_of_le hn) hentries
  exact (hconverted.1.setProperty _ _ (Value.staysWithin_text _)).setProperty _ _
    (Value.staysWithin_dict.mpr hconverted.2)

end conversions

end World

/-! ## Builtin modules -/

namespace Catalogue

variable {K : Apart} {n m : Nat} {w : World} (hK : ∀ o : ObjectId, n ≤ o.index → K.objects o)
  (hidents : ∀ k, m ≤ k → K.idents k) (h : w.Confined K)
include hK hidents h

theorem confined_structMade (hn : n ≤ w.heap.size) (hm : m ≤ w.nextIdent) (name : String)
    {members : Bindings Value} (hmembers : ∀ entry ∈ members, entry.2.StaysWithin K.objects) :
    (structMade w name members).Confined K := by
  have hident := hidents _ hm
  have hcloned : ((w.structDeclared ⟨name, members.names, []⟩).cloned (typeOver w name members)
      ⟨w.heap.size⟩).Confined K :=
    (h.structDeclared _ hident).cloned hident (hK ⟨w.heap.size⟩ hn)
  refine hcloned.published hK ?_ _ fun entry hentry => ?_
  · exact Nat.le_trans hn (World.extends_structDeclared.trans (World.extends_cloned _ _)).size_le
  · obtain ⟨member, hmember, hvalue⟩ := List.mem_map.mp (List.of_mem_zip hentry).2
    rw [← hvalue]
    exact hmembers member hmember

theorem confined_loaded (hn : n ≤ w.heap.size) (hm : m ≤ w.nextIdent) :
    (loaded w).Confined K := by
  have hplace : ∀ {o : ObjectId}, n ≤ o.index → (Value.object o).StaysWithin K.objects :=
    fun ho => Value.staysWithin_object.mpr (.inl (hK _ ho))
  have hextends : w.Extends (aobingMade w) := extends_structMade w _ _
  have hextends₂ : (aobingMade w).Extends (nezhaMade w) := extends_structMade _ _ _
  have hn₁ := Nat.le_trans hn hextends.size_le
  -- The second struct refers to an instance of the first, and the module to one of each.
  have hfirst : (aobingMade w).Confined K := by
    refine confined_structMade hK hidents h hn hm "Aobing" ?_
    simp [aobingMembers]
  have haobing : (Value.object ⟨w.heap.size + 1⟩).StaysWithin K.objects :=
    hplace (Nat.le_succ_of_le hn)
  have hsecond : (nezhaMade w).Confined K := by
    refine confined_structMade hK hidents hfirst hn₁ (Nat.le_trans hm hextends.nextIdent_le)
      "NEZHA" ?_
    simp [nezhaMembers, haobing]
  have hnezha : (Value.object ⟨(aobingMade w).heap.size + 1⟩).StaysWithin K.objects :=
    hplace (Nat.le_succ_of_le hn₁)
  refine hsecond.moduleMade hK (Nat.le_trans hn₁ hextends₂.size_le) _ ?_
  simp [nezhaBindings, hnezha]

end Catalogue

/-! ## Declarations -/

namespace Operation

/-- **Declarations** add nothing that refers to what existed before, and no object
    of a type that did, unless it is builtin. -/
theorem Records.confined {natives : Natives} {w w' : World} {Ts : List TypeDescriptor}
    (hrecords : Records natives w w' Ts) {K : Apart}
    (hK : ∀ o : ObjectId, w.heap.size ≤ o.index → K.objects o)
    (hidents : ∀ n, w.nextIdent ≤ n → K.idents n) (h : w.Confined K) : w'.Confined K := by
  cases hrecords with
  | type T => exact h.congr fun _ => rfl
  | struct shape => exact h.structDeclared shape (hidents _ (Nat.le_refl _))
  | module => exact Catalogue.confined_loaded hK hidents h (Nat.le_refl _) (Nat.le_refl _)
  | refused => exact h

end Operation

end DynamicObjects
