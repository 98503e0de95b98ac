import DynamicObjects.Proofs.Copies.Appearance
import DynamicObjects.Proofs.Heap.Lifetime
import DynamicObjects.Proofs.Isolation.Confined
import DynamicObjects.Proofs.Safety.Payload
import DynamicObjects.Proofs.Struct.Marks

/-! # Copies of a builtin module

    Every load of a builtin module makes a copy of its own.  The copy appears as the
    one that is loaded first, whatever has become of earlier copies, and it goes on
    appearing so, whatever becomes of other copies later.

    The argument:
    1. Loading adds the same objects in every world, shifted to the end of it.
       These refer to each other and to singletons only.
    2. Their types have no handler of the host and are not those of arrays, so that
       only operations on them write to them.
    3. So operations on anything else, and the release of objects, leave them as
       they are.

    Main results:
    - `World.Evolves.untouched`: objects that are not written stay as they are
    - `Catalogue.copies_independent`: a copy appears as the first one does, and shares
      nothing with the others -/

namespace DynamicObjects

/-! ## Worlds in which some objects are not written -/

/-- The worlds that operations lead to which write no properties of some objects,
    and the release of objects in between. -/
inductive World.Evolves (host : Host) (K : ObjectId → Prop) (w : World) : World → Prop where
  | start : Evolves host K w w
  | step {w₁ w₂ : World} (h : Evolves host K w w₁) (op : Operation)
      (hvalues : w₁.SupportsAll op.values) (hspares : ∀ o name, op.Writes w₁ o name → ¬ K o)
      (hends : op.EndsIn host w₁ w₂) : Evolves host K w w₂
  | collect {w₁ : World} (h : Evolves host K w w₁) (roots : List ObjectId) :
      Evolves host K w (w₁.collect roots)

/-- Objects are **untouched** if those that have not been released have the types,
    the properties and the marks that they had. -/
structure World.Untouched (K : ObjectId → Prop) (w w' : World) : Prop where
  size_le : w.heap.size ≤ w'.heap.size
  typeOf_eq : ∀ {o : ObjectId}, K o → w'.isAlive o = true → w'.typeOf o = w.typeOf o
  property?_eq : ∀ {o : ObjectId}, K o → w'.isAlive o = true →
    ∀ name, w'.property? o name = w.property? o name
  isInstance_eq : ∀ {o : ObjectId}, K o → w'.isAlive o = true →
    (w'.object o).isInstance = (w.object o).isInstance

namespace World

variable {host : Host} {K : ObjectId → Prop} {w w₁ w₂ : World}

/-- All properties of some objects are sealed, unless these have been released. -/
def allOf (K : ObjectId → Prop) (w : World) : Locations := fun o _ => K o ∧ w.isAlive o = true

theorem Untouched.fits (h : w.Untouched K w₁) (hK : w.Contains K)
    (htypes : ∀ o, K o → (w.typeOf o).Sealable) (hw₁ : w₁.WellFormed) :
    w₁.Fits (allOf K w₁) := by
  refine hw₁.fits_of_sealable ?_ ?_
  · exact fun ho => Nat.lt_of_lt_of_le (hK _ ho.1) h.size_le
  · intro o name ho
    rw [h.typeOf_eq ho.1 ho.2]
    exact htypes o ho.1

/-- **Step**: an operation that writes none of the objects. -/
theorem Untouched.step (h : w.Untouched K w₁)
    (hhost : ∀ L : Locations, (∀ o name, L o name → K o) → host.Respects L)
    (hmarks : host.MarksNothing K) (hK : w.Contains K)
    (htypes : ∀ o, K o → (w.typeOf o).Sealable) (hw₁ : w₁.WellFormed) {op : Operation}
    (hvalues : w₁.SupportsAll op.values) (hspares : ∀ o name, op.Writes w₁ o name → ¬ K o)
    (hends : op.EndsIn host w₁ w₂) : w.Untouched K w₂ := by
  have hcontains : w₁.Contains K := fun o ho => Nat.lt_of_lt_of_le (hK o ho) h.size_le
  have hsafe := Operation.safe_of_endsIn (hhost _ fun _ _ ho => ho.1)
    (h.fits hK htypes hw₁) hvalues (fun o name hwrites ho => hspares o name hwrites ho.1) hends
  have hmarksNothing := Operation.run_marks hmarks op
    fun o data hop ho => hspares o declaredName (hop ▸ rfl) ho
  have hkeeps : w₁.KeepsMarks K w₂ := by
    rcases hends with hdone | ⟨f, hraised⟩
    · exact hmarksNothing.done hcontains hdone
    · exact hmarksNothing.raised hcontains hraised
  -- What is alive after the operation was so before it.
  have halive : ∀ {o}, K o → w₂.isAlive o = true → w₁.isAlive o = true :=
    fun ho hafter => (hsafe.later.isAlive_eq (hcontains _ ho)) ▸ hafter
  constructor
  case size_le => exact Nat.le_trans h.size_le hkeeps.size_le
  case typeOf_eq =>
    intro o ho hafter
    exact (hsafe.later.typeOf_eq (hcontains o ho)).trans (h.typeOf_eq ho (halive ho hafter))
  case property?_eq =>
    intro o ho hafter name
    have hbefore := halive ho hafter
    exact (hsafe.property?_eq ⟨ho, hbefore⟩).trans (h.property?_eq ho hbefore name)
  case isInstance_eq =>
    intro o ho hafter
    exact (hkeeps.isInstance_eq ho).trans (h.isInstance_eq ho (halive ho hafter))

/-- **Step**: the release of objects. -/
theorem Untouched.collect (h : w.Untouched K w₁) (roots : List ObjectId) :
    w.Untouched K (w₁.collect roots) := by
  have hbefore : ∀ {o}, (w₁.collect roots).isAlive o = true → w₁.isAlive o = true :=
    fun halive => (isAlive_collect_iff.mp halive).1
  -- Nothing is said of objects that are released, and the others stay as they are.
  constructor
  case size_le =>
    rw [size_collect]
    exact h.size_le
  case typeOf_eq =>
    intro o ho halive
    rw [typeOf_collect halive]
    exact h.typeOf_eq ho (hbefore halive)
  case property?_eq =>
    intro o ho halive name
    rw [property?_collect halive]
    exact h.property?_eq ho (hbefore halive) name
  case isInstance_eq =>
    intro o ho halive
    rw [object_collect halive]
    exact h.isInstance_eq ho (hbefore halive)

theorem Evolves.reachable (hevolves : Evolves host K w w₁) (hw : Reachable host w) :
    Reachable host w₁ := by
  induction hevolves with
  | start => exact hw
  | step _ op hvalues _ hends ih => exact ih.step op hvalues hends
  | collect _ roots ih => exact ih.collect roots

theorem Evolves.size_le (hevolves : Evolves host K w w₁) (hwell : host.Respects unsealed)
    (hw : Reachable host w) : w.heap.size ≤ w₁.heap.size := by
  induction hevolves with
  | start => exact Nat.le_refl _
  | step hbefore op hvalues _ hends ih =>
    have hfits := ((hbefore.reachable hw).wellFormed hwell).fits
    have hsafe := Operation.safe_of_endsIn hwell hfits hvalues (fun _ _ _ h => h) hends
    exact Nat.le_trans ih hsafe.later.size_le
  | collect _ roots ih =>
    rw [size_collect]
    exact ih

/-- **Objects that are not written stay as they are**, until they are released. -/
theorem Evolves.untouched (hevolves : Evolves host K w w₁)
    (hhost : ∀ L : Locations, (∀ o name, L o name → K o) → host.Respects L)
    (hmarks : host.MarksNothing K) (hw : Reachable host w) (hK : w.Contains K)
    (htypes : ∀ o, K o → (w.typeOf o).Sealable) : w.Untouched K w₁ := by
  induction hevolves with
  | start => exact ⟨Nat.le_refl _, fun _ _ => rfl, fun _ _ _ => rfl, fun _ _ => rfl⟩
  | step hbefore op hvalues hspares hends ih =>
    have hwellFormed := (hbefore.reachable hw).wellFormed (hhost _ fun _ _ h => h.elim)
    exact ih.step hhost hmarks hK htypes hwellFormed hvalues hspares hends
  | collect _ roots ih => exact ih.collect roots

end World

/-! ## The objects of a copy -/

/-- Builtin types have no handlers of the host, and only arrays have more methods
    than those of texts. -/
theorem TypeDescriptor.sealable_builtin {T : TypeDescriptor} (hT : T ∈ builtins)
    (harray : T.category ≠ .array) : T.Sealable := by
  simp only [builtins, List.mem_cons, List.not_mem_nil, or_false] at hT
  have hslots : ∀ (s : Slot) (name : String), T.slots s ≠ some (.native name) := by
    intro s name hslot
    rcases hT with rfl | rfl | rfl | rfl | rfl | rfl | rfl | rfl | rfl | rfl <;>
      cases s <;> cases hslot
  refine sealable_of_texts hslots ?_
  rcases hT with rfl | rfl | rfl | rfl | rfl | rfl | rfl | rfl | rfl | rfl
  case inr.inr.inr.inr.inr.inl => exact isPlain_string.methods
  case inr.inr.inr.inr.inr.inr.inl => exact absurd rfl harray
  all_goals exact fun entry hentry => absurd hentry List.not_mem_nil

namespace World

/-- The objects that one world has beyond another one. -/
def New (w w₁ : World) (o : ObjectId) : Prop :=
  w.heap.size ≤ o.index ∧ o.index < w₁.heap.size

/-- Everything from the end of a world on. -/
def beyond (w : World) : Apart := ⟨fun o => w.heap.size ≤ o.index, fun n => w.nextIdent ≤ n⟩

/-- Where the objects are that are added to a world, compared to an initial one. -/
def shift (w : World) : Shift := ⟨w.heap.size, w.nextIdent⟩

/-- What has been checked of all slots from some place on. -/
theorem exists_object_of_all {w : World} {start : Nat} {check : Object → Bool}
    (hall : (w.heap.toList.drop start).all (fun slot => slot.any check) = true) {o : ObjectId}
    (hstart : start ≤ o.index) (ho : o.index < w.heap.size) :
    ∃ x, w.object? o = some x ∧ check x = true := by
  have hmem : w.heap[o.index] ∈ w.heap.toList.drop start := by
    refine List.mem_drop_iff_getElem.mpr ⟨o.index - start, ?_, ?_⟩
    · rw [Array.length_toList]
      omega
    · simp only [Nat.add_sub_cancel' hstart, Array.getElem_toList]
  obtain ⟨x, hx, hcheck⟩ := (Option.any_eq_true _ _).mp (List.all_eq_true.mp hall _ hmem)
  refine ⟨x, ?_, hcheck⟩
  rw [object?, Array.getElem?_eq_getElem ho, hx, Option.join_some]

end World

namespace Catalogue

variable {w : World} {o p : ObjectId}

set_option maxRecDepth 20000 in
/-- In an initial world a copy has no truth values, arrays and wrappers. -/
theorem categories_first :
    ((loaded .initial).heap.toList.drop 3).all (fun slot =>
      slot.any fun x => decide (x.type.category ∉ [.bool, .array, .wrapper])) = true := by
  decide +kernel

/-- A copy refers to what is in it, and to singletons. -/
theorem confined_copy (w : World) : (loaded w).Confined w.beyond := by
  refine confined_loaded (fun o ho => ho) (fun n hn => hn) ?_ (Nat.le_refl _) (Nat.le_refl _)
  intro o x ho hx
  rw [World.object?_eq_none_of_size_le ho] at hx
  cases hx

theorem isAlive_first (ho : World.New .initial (loaded .initial) o) :
    (loaded .initial).isAlive o = true := by
  obtain ⟨x, hx, -⟩ := World.exists_object_of_all categories_first ho.1 ho.2
  rw [World.isAlive, hx]
  rfl

/-- **The types** of a copy are those of structs and most builtin ones. -/
theorem typeOf_first (ho : World.New .initial (loaded .initial) o) :
    ((loaded .initial).typeOf o ∈ TypeDescriptor.builtins ∧
        ((loaded .initial).typeOf o).category ∉ [.bool, .array, .wrapper]) ∨
      ∃ shape ident, (loaded .initial).typeOf o = .struct shape (.declared ident) := by
  obtain ⟨x, hx, hcategory⟩ := World.exists_object_of_all categories_first ho.1 ho.2
  have htype : (loaded .initial).typeOf o = x.type := by
    rw [World.typeOf, World.object, hx, Option.getD_some]
  rw [htype]
  rcases (confined_copy .initial ho.1 hx).type with hbuiltin | ⟨shape, ident, hstruct, -⟩
  · exact .inl ⟨hbuiltin, of_decide_eq_true hcategory⟩
  · exact .inr ⟨shape, ident, hstruct⟩

theorem placeless_first (ho : World.New .initial (loaded .initial) o) :
    ((loaded .initial).typeOf o).Placeless := by
  rcases typeOf_first ho with ⟨hbuiltin, hcategory⟩ | ⟨shape, ident, hstruct⟩
  · exact TypeDescriptor.placeless_builtin hbuiltin hcategory
  · rw [hstruct]
    exact TypeDescriptor.placeless_struct shape _

/-! ## Copies compared to the first one -/

theorem shifted_copy (w : World) : World.Shifted w.shift (loaded .initial) (loaded w) :=
  shifted_loaded (World.shifted_initial w)

/-- **The objects of a copy** are those of the first one in shifted places. -/
theorem new_iff : w.New (loaded w) p ↔
    ∃ o, World.New .initial (loaded .initial) o ∧ w.shift.place o = p := by
  have hsize : (loaded w).heap.size + 3 = (loaded .initial).heap.size + w.heap.size :=
    (shifted_copy w).size_eq
  have hthree : World.initial.heap.size = 3 := rfl
  -- The singletons take the first three places of either world and are not shifted.
  simp only [World.New, hthree]
  constructor
  · rintro ⟨hle, hlt⟩
    have ho : 3 ≤ (⟨p.index - w.heap.size + 3⟩ : ObjectId).index := Nat.le_add_left _ _
    refine ⟨⟨p.index - w.heap.size + 3⟩, ⟨ho, ?_⟩, ?_⟩
    · show p.index - w.heap.size + 3 < _
      omega
    · rw [Shift.place_of_le ho]
      cases p
      simp only [World.shift, ObjectId.mk.injEq] at hle ⊢
      omega
  · rintro ⟨o, ⟨hle, hlt⟩, rfl⟩
    rw [Shift.place_of_le hle]
    show w.heap.size ≤ o.index - 3 + w.heap.size ∧ o.index - 3 + w.heap.size < _
    omega

theorem sealable_copy (hp : w.New (loaded w) p) : ((loaded w).typeOf p).Sealable := by
  obtain ⟨o, ho, rfl⟩ := new_iff.mp hp
  rw [(shifted_copy w).typeOf_eq ho.1]
  rcases typeOf_first ho with ⟨hbuiltin, hcategory⟩ | ⟨shape, ident, hstruct⟩
  · rw [TypeDescriptor.shift_builtin hbuiltin]
    exact TypeDescriptor.sealable_builtin hbuiltin fun harray => hcategory (by simp [harray])
  · rw [hstruct, TypeDescriptor.shift_struct]
    exact World.sealable_struct shape _

theorem isAlive_copy (hp : w.New (loaded w) p) : (loaded w).isAlive p = true := by
  obtain ⟨o, ho, rfl⟩ := new_iff.mp hp
  rw [World.isAlive, (shifted_copy w).object?_eq ho.1, Option.isSome_map]
  exact isAlive_first ho

/-- **A copy that is not written** goes on appearing as the first one. -/
theorem appears_copy {host : Host}
    (hhost : ∀ L : World.Locations, (∀ p name, L p name → w.New (loaded w) p) → host.Respects L)
    (hmarks : host.MarksNothing (w.New (loaded w))) (hloaded : World.Reachable host (loaded w)) {w' : World}
    (hevolves : World.Evolves host (w.New (loaded w)) (loaded w) w')
    (ho : World.New .initial (loaded .initial) o) (halive : w'.isAlive (w.shift.place o) = true) :
    (loaded .initial).Appears host w.shift o w' (w.shift.place o) := by
  have hnew : w.New (loaded w) (w.shift.place o) := new_iff.mpr ⟨o, ho, rfl⟩
  have huntouched := hevolves.untouched hhost hmarks hloaded (fun _ hp => hp.2)
    (fun _ hp => sealable_copy hp)
  have hwell : host.Respects World.unsealed := hhost _ fun _ _ h => h.elim
  have hsettled := (hloaded.wellFormed hwell).settled (w.shift.place o)
  have hsettled' := ((hevolves.reachable hloaded).wellFormed hwell).settled (w.shift.place o)
  have hmirrors := ((shifted_copy w).mirrors ho.1).congr (huntouched.typeOf_eq hnew halive)
    (huntouched.property?_eq hnew halive) (huntouched.isInstance_eq hnew halive)
    (hsettled'.trans hsettled.symm)
  exact hmirrors.appears host (placeless_first ho)

end Catalogue

/-! ## Independent copies -/

/-- A copy of a module is **independent** in a world if it appears as the first copy
    and shares nothing with what there is in the world or what is loaded later. -/
structure Catalogue.IndependentCopy (host : Host) (name : String) (w : World)
    (first : ObjectId) (u : World) (copy : ObjectId) (w₁ : World) : Prop where
  /-- The module is a new object. -/
  module : World.New .initial u first ∧ w.shift.place first = copy
  /-- The same objects are made. -/
  new_iff : ∀ p, w.New w₁ p ↔ ∃ o, World.New .initial u o ∧ w.shift.place o = p
  isAlive : ∀ p, w.New w₁ p → w₁.isAlive p = true
  /-- What there was before is as it was. -/
  keeps : w.Extends w₁
  /-- The copy refers to nothing that there was before, singletons apart. -/
  references : ∀ p, w.New w₁ p → ∀ q ∈ (w₁.object p).references,
    w.heap.size ≤ q.index ∨ q ∈ World.singletons
  /-- No later copy has an object in common with it. -/
  disjoint : ∀ {w' w₂ : World} {other : ObjectId}, w₁.Evolves host (fun _ => False) w' →
    load host.natives name w' = .done other w₂ → ∀ p, w.New w₁ p → ¬ w'.New w₂ p
  /-- It appears as the first one, as long as operations write other objects only. -/
  appears : ∀ {w' : World}, w₁.Evolves host (w.New w₁) w' → ∀ o, World.New .initial u o →
    w'.isAlive (w.shift.place o) = true → u.Appears host w.shift o w' (w.shift.place o)

namespace Catalogue

variable {host : Host} {w : World}

theorem reachable_loaded (hw : World.Reachable host w) : World.Reachable host (loaded w) := by
  refine hw.step (.loadModule "_nezha") (fun v hv => absurd hv List.not_mem_nil) (.inl ?_)
  rw [Operation.run, Run.bind_apply, load_eq, if_pos rfl]
  rfl

/-- **Every copy is independent**: in every world that operations lead to, loading
    a module makes the same objects as the first time, all of them new.  They appear
    the same until they are written themselves, so that changes of one copy never
    show in another one.  All that is asked of the host is that it leaves alone what
    is sealed of the copy, and marks none of its objects. -/
theorem copies_independent {name : String} (hname : name ∈ names) (hw : World.Reachable host w)
    (hhost : ∀ {copy w₁}, load host.natives name w = .done copy w₁ →
      ∀ L : World.Locations, (∀ p m, L p m → w.New w₁ p) → host.Respects L)
    (hmarks : ∀ {copy w₁}, load host.natives name w = .done copy w₁ →
      host.MarksNothing (w.New w₁)) :
    ∃ first u copy w₁, load host.natives name .initial = .done first u ∧
      load host.natives name w = .done copy w₁ ∧
      IndependentCopy host name w first u copy w₁ := by
  obtain rfl : name = "_nezha" := List.mem_singleton.mp hname
  have hload : ∀ v : World, load host.natives "_nezha" v =
      .done ⟨(nezhaMade v).heap.size⟩ (loaded v) := fun v => by rw [load_eq, if_pos rfl]
  have hloaded := reachable_loaded hw
  have hhost := hhost (hload w)
  refine ⟨_, _, _, _, hload .initial, hload w, ?_⟩
  constructor
  case module =>
    have hnezha : World.initial.Extends (nezhaMade .initial) :=
      (extends_structMade .initial _ _).trans (extends_structMade _ _ _)
    exact ⟨⟨hnezha.size_le, World.size_lt_moduleMade _ _⟩,
      (shifted_nezhaMade (World.shifted_initial w)).place_size⟩
  case new_iff => exact fun p => new_iff
  case isAlive => exact fun p hp => isAlive_copy hp
  case keeps => exact extends_loaded w
  case references =>
    intro p hp q hq
    obtain ⟨x, hx⟩ := Option.isSome_iff_exists.mp (isAlive_copy hp)
    rw [World.object, hx] at hq
    exact (confined_copy w hp.1 hx).references q hq
  -- A world only grows, so that what is added later lies behind the copy.
  case disjoint =>
    intro w' w₂ other hevolves hother p hp hp'
    have hcontains := hevolves.size_le (hhost _ fun _ _ h => h.elim) hloaded
    exact absurd hp.2 (Nat.not_lt.mpr (Nat.le_trans hcontains hp'.1))
  case appears =>
    intro w' hevolves o ho halive
    exact appears_copy hhost (hmarks (hload w)) hloaded hevolves ho halive

/-- A member of the first copy is changed before the module is loaded again. -/
theorem copies_independent_after_change :
    ∃ w : World, w = (loaded .initial).setProperty ⟨4⟩ "name" (.text "changed") ∧
      World.Reachable Stock.host w ∧ "_nezha" ∈ names ∧
      ∃ first u copy w₁, load Stock.host.natives "_nezha" .initial = .done first u ∧
        load Stock.host.natives "_nezha" w = .done copy w₁ ∧
        IndependentCopy Stock.host "_nezha" w first u copy w₁ := by
  have hchanged : World.Reachable Stock.host
      ((loaded .initial).setProperty ⟨4⟩ "name" (.text "changed")) :=
    (reachable_loaded .initial).step (.setProperty ⟨4⟩ "name" (.text "changed"))
      (fun v hv => List.mem_singleton.mp hv ▸ World.supports_text _) (.inl rfl)
  have hname : "_nezha" ∈ names := List.mem_singleton_self _
  exact ⟨_, rfl, hchanged, hname,
    copies_independent hname hchanged (fun _ _ _ => Stock.host_respects)
      fun _ => Stock.host_marks_nothing⟩

end Catalogue

end DynamicObjects
