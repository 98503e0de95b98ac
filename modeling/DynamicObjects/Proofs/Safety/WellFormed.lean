import DynamicObjects.Proofs.Heap.Building

/-! # Well-formed worlds

    What holds of every world that operations lead to: a method that is found
    somewhere belongs to its receiver, mappings and objects bind no name twice,
    and no object is under construction between two operations.

    Operations lead to later worlds: objects keep their places and their types.
    In addition some properties may be sealed, which no method writes;
    `World.Safe` says of two worlds that the second is well-formed, later, and
    has the sealed properties of the first. -/

namespace DynamicObjects

/-- A type **uses the host** if one of its handlers or methods is the host's. -/
def TypeDescriptor.UsesHost (T : TypeDescriptor) : Prop :=
  (∃ (s : Slot) (name : String), T.slots s = some (.native name)) ∨
    ∃ key name, (key, Method.native (.native name)) ∈ T.methods

/-- A type is **sealable** if the properties of its objects can be sealed: it has
    no handlers of the host and no methods of arrays. -/
structure TypeDescriptor.Sealable (T : TypeDescriptor) : Prop where
  not_usesHost : ¬ T.UsesHost
  not_array : ∀ (method : ArrayMethod) (key : String),
    (key, Method.native (.array method)) ∉ T.methods

/-- Methods of texts do no harm. -/
theorem TypeDescriptor.sealable_of_texts {T : TypeDescriptor}
    (hslots : ∀ (s : Slot) (name : String), T.slots s ≠ some (.native name))
    (hmethods : ∀ entry ∈ T.methods, ∃ method : TextMethod, entry.2 = .native (.text method)) :
    T.Sealable := by
  constructor
  case not_usesHost =>
    rintro (⟨s, name, hslot⟩ | ⟨key, name, hmethod⟩)
    · exact hslots s name hslot
    · obtain ⟨method, hmethod⟩ := hmethods _ hmethod
      cases hmethod
  case not_array =>
    intro method key hmethod
    obtain ⟨method, hmethod⟩ := hmethods _ hmethod
    cases hmethod

/-! ## Sound values -/

/-- A method is **bound** as its type says: its receiver exists, and has the
    method unless it has been released. -/
def Function.IsBound (w : World) (f : Function) : Prop :=
  ∀ receiver qualifiedName body, f.body = .bound receiver qualifiedName body →
    receiver.index < w.heap.size ∧
      ∀ x, w.object? receiver = some x → ∃ name, (name, Method.native body) ∈ x.type.methods

/-- A node is sound if it is a properly bound function or a mapping of distinct
    names, or neither function nor mapping. -/
def Value.IsSound (w : World) : Value → Prop
  | .function f => f.IsBound w
  | .dict entries => (Bindings.names entries).Nodup
  | _ => True

namespace World

/-- A world **supports** a value all nodes of which are sound in it. -/
def Supports (w : World) (v : Value) : Prop := ∀ u ∈ v.nodes, u.IsSound w

section supports
variable {w : World}

@[simp] theorem supports_null : w.Supports .null := by
  simp [Supports, Value.nodes, Value.IsSound]

@[simp] theorem supports_bool (b : Bool) : w.Supports (.bool b) := by
  simp [Supports, Value.nodes, Value.IsSound]

@[simp] theorem supports_int (n : Int64) : w.Supports (.int n) := by
  simp [Supports, Value.nodes, Value.IsSound]

@[simp] theorem supports_float (x : Binary64) : w.Supports (.float x) := by
  simp [Supports, Value.nodes, Value.IsSound]

@[simp] theorem supports_complex (z : Complex) : w.Supports (.complex z) := by
  simp [Supports, Value.nodes, Value.IsSound]

@[simp] theorem supports_text (s : String) : w.Supports (.text s) := by
  simp [Supports, Value.nodes, Value.IsSound]

@[simp] theorem supports_object (o : ObjectId) : w.Supports (.object o) := by
  simp [Supports, Value.nodes, Value.IsSound]

/-- All values of a list are supported. -/
def SupportsAll (w : World) (items : List Value) : Prop := ∀ v ∈ items, w.Supports v

@[simp] theorem supportsAll_nil : w.SupportsAll [] := fun _ h => absurd h List.not_mem_nil

@[simp] theorem supportsAll_cons {v : Value} {rest : List Value} :
    w.SupportsAll (v :: rest) ↔ w.Supports v ∧ w.SupportsAll rest := List.forall_mem_cons

@[simp] theorem supportsAll_append {items others : List Value} :
    w.SupportsAll (items ++ others) ↔ w.SupportsAll items ∧ w.SupportsAll others :=
  List.forall_mem_append

theorem SupportsAll.subset {items others : List Value} (h : w.SupportsAll items)
    (hsub : others ⊆ items) : w.SupportsAll others :=
  fun v hv => h v (hsub hv)

theorem supports_list {items : List Value} :
    w.Supports (.list items) ↔ w.SupportsAll items := by
  simp only [SupportsAll, Supports, Value.nodes, List.forall_mem_cons, Value.mem_nodesList,
    Value.IsSound, true_and]
  exact ⟨fun h v hv u hu => h u ⟨v, hv, hu⟩, fun h u ⟨v, hv, hu⟩ => h v hv u hu⟩

theorem supports_dict {entries : Bindings Value} :
    w.Supports (.dict entries) ↔
      (Bindings.names entries).Nodup ∧ ∀ entry ∈ entries, w.Supports entry.2 := by
  simp only [Supports, Value.nodes, List.forall_mem_cons, Value.mem_nodesEntries, Value.IsSound]
  exact and_congr_right fun _ =>
    ⟨fun h entry hentry u hu => h u ⟨entry, hentry, hu⟩,
      fun h u ⟨entry, hentry, hu⟩ => h entry hentry u hu⟩

theorem supports_dict_set {entries : Bindings Value} {name : String} {v : Value}
    (h : w.Supports (.dict entries)) (hv : w.Supports v) :
    w.Supports (.dict (entries.set name v)) := by
  obtain ⟨hnames, hvalues⟩ := supports_dict.mp h
  apply supports_dict.mpr
  constructor
  · exact Bindings.nodup_names_set hnames
  · intro entry hentry
    rcases Bindings.mem_set hentry with rfl | hentry
    · exact hv
    · exact hvalues entry hentry

end supports

section later
variable {w w₁ : World}

theorem isBound_later {f : Function} (hf : f.IsBound w) (h : w.Later w₁) : f.IsBound w₁ := by
  intro receiver qualifiedName body hbody
  obtain ⟨hlt, hmethod⟩ := hf receiver qualifiedName body hbody
  refine ⟨Nat.lt_of_lt_of_le hlt h.size_le, fun x hx => ?_⟩
  have htype := h.type_eq hlt
  rw [hx, Option.map_some, eq_comm, Option.map_eq_some_iff] at htype
  obtain ⟨x', hx', htype⟩ := htype
  -- The receiver had the same type before, and so the method.
  rw [← htype]
  exact hmethod x' hx'

theorem isSound_later {u : Value} (hu : u.IsSound w) (h : w.Later w₁) : u.IsSound w₁ := by
  cases u with
  | function f => exact isBound_later hu h
  | dict entries => exact hu
  | _ => trivial

/-- What a world supports, later ones support. -/
theorem Supports.later {v : Value} (hv : w.Supports v) (h : w.Later w₁) : w₁.Supports v :=
  fun u hu => isSound_later (hv u hu) h

theorem SupportsAll.later {items : List Value} (h : w.SupportsAll items) (hlater : w.Later w₁) :
    w₁.SupportsAll items :=
  fun v hv => (h v hv).later hlater

end later

/-! ## Well-formedness -/

/-- Objects hold sound values under distinct names. -/
structure Consistent (w : World) : Prop where
  supports : ∀ {o : ObjectId} {x : Object}, w.object? o = some x →
    ∀ entry ∈ x.properties, w.Supports entry.2
  names : ∀ {o : ObjectId} {x : Object}, w.object? o = some x →
    (Bindings.names x.properties).Nodup

/-- The invariant of all worlds between operations. -/
structure WellFormed (w : World) : Prop extends Consistent w where
  settled : w.Settled

theorem wellFormed_initial : initial.WellFormed where
  supports := by
    rintro ⟨_ | _ | _ | i⟩ x hx <;> cases hx <;> intro entry hentry <;>
      obtain rfl := List.mem_singleton.mp hentry
    · exact supports_null
    · exact supports_bool true
    · exact supports_bool false
  names := by
    rintro ⟨_ | _ | _ | i⟩ x hx <;> cases hx <;> exact List.nodup_singleton _
  settled := settled_initial

section consistent
variable {w w₁ : World}

theorem Consistent.property? (hw : w.Consistent) {o : ObjectId} {name : String} {v : Value}
    (h : w.property? o name = some v) : w.Supports v := by
  obtain ⟨x, hx, hv⟩ := object?_of_property?_eq_some h
  exact hw.supports hx (name, v) (Bindings.mem_of_get?_eq_some hv)

theorem Consistent.unwrap (hw : w.Consistent) {v : Value} (hv : w.Supports v) :
    w.Supports (w.unwrap v) := by
  cases v with
  | object o =>
    rw [World.unwrap]
    cases hpayload : w.payload? o with
    | none => exact hv
    | some u => exact hw.property? hpayload
  | _ => exact hv

/-- A change of one object leaves a world consistent if it keeps the type and
    leaves the object consistent. -/
theorem Consistent.update (hw : w.Consistent) {o : ObjectId} {f : Object → Object}
    (htype : ∀ x, (f x).type = x.type)
    (hsupports : ∀ x, w.object? o = some x → ∀ entry ∈ (f x).properties, w.Supports entry.2)
    (hnames : ∀ x, w.object? o = some x → (Bindings.names (f x).properties).Nodup) :
    (w.update o f).Consistent := by
  constructor
  · intro p x hx entry hentry
    rw [object?_update] at hx
    apply Supports.later _ (later_update w o htype)
    split at hx
    · next hp =>
      obtain ⟨y, hy, rfl⟩ := Option.map_eq_some_iff.mp hx
      exact hsupports y (hp ▸ hy) entry hentry
    · exact hw.supports hx entry hentry
  · intro p x hx
    rw [object?_update] at hx
    split at hx
    · next hp =>
      obtain ⟨y, hy, rfl⟩ := Option.map_eq_some_iff.mp hx
      exact hnames y (hp ▸ hy)
    · exact hw.names hx

theorem Consistent.setProperties (hw : w.Consistent) (o : ObjectId) {entries : Bindings Value}
    (hentries : ∀ entry ∈ entries, w.Supports entry.2) :
    (w.setProperties o entries).Consistent := by
  refine hw.update (fun _ => rfl) ?_ ?_
  · intro x hx entry hentry
    rcases Bindings.mem_setAll hentry with h | h
    · exact hentries entry h
    · exact hw.supports hx entry h
  · intro x hx
    exact Bindings.nodup_names_setAll (hw.names hx)

theorem Consistent.add (hw : w.Consistent) (T : TypeDescriptor) :
    (w.add (.bare T)).2.Consistent := by
  constructor
  · intro o x hx entry hentry
    rw [object?_add] at hx
    apply Supports.later _ (later_add w _)
    split at hx
    · obtain rfl := Option.some.inj hx
      cases hentry
    · exact hw.supports hx entry hentry
  · intro o x hx
    rw [object?_add] at hx
    split at hx
    · obtain rfl := Option.some.inj hx
      exact List.nodup_nil
    · exact hw.names hx

/-- What is built is consistent, since a new object's methods are bound to it. -/
theorem Builds.consistent {start : Nat} {given : Value → Prop} (h : Builds start given w w₁)
    (hw : w.Consistent) (hgiven : ∀ u, given u → u.IsSound w) : w₁.Consistent := by
  induction h with
  | refl => exact hw
  | ident _ ih => exact ⟨ih.supports, ih.names⟩
  | add _ T ih => exact ih.add T
  | @set w' h o hnew name v hv ih =>
    have hsupports : w'.Supports v := by
      intro u hu
      cases hv u hu with
      | given hu => exact isSound_later (hgiven u hu) h.later
      | object => trivial
      | list => trivial
      | method hf =>
        -- The receiver of a new method is new as well, and has it by its type.
        intro receiver qualifiedName body hbody
        obtain ⟨receiver', _, body', key, hbody', -, hlt, hmethod⟩ := hf
        obtain ⟨rfl, -, rfl⟩ := FunctionBody.bound.inj (hbody'.symm.trans hbody)
        refine ⟨hlt, fun x hx => ⟨key, ?_⟩⟩
        rw [typeOf, object, hx] at hmethod
        exact hmethod
    have hset : (w'.setProperties o [(name, v)]).Consistent := by
      apply ih.setProperties
      intro entry hentry
      obtain rfl := List.mem_singleton.mp hentry
      exact hsupports
    exact hset

end consistent

/-! ## Sealed properties -/

/-- A choice of properties of objects. -/
abbrev Locations := ObjectId → String → Prop

/-- A world in which operations may run while the properties in `L` are sealed:
    it is well-formed, the host has no handlers on what is sealed, and no sealed
    payload is that of an array, whose bound methods could write it from
    anywhere. -/
structure Fits (L : Locations) (w : World) : Prop where
  wellFormed : w.WellFormed
  index_lt : ∀ {o : ObjectId} {name : String}, L o name → o.index < w.heap.size
  not_usesHost : ∀ {o : ObjectId} {name : String}, L o name → ¬ (w.typeOf o).UsesHost
  not_array : ∀ {o : ObjectId}, L o payloadName → ∀ (method : ArrayMethod) (key : String),
    (key, Method.native (.array method)) ∉ (w.typeOf o).methods

/-- Properties of objects of sealable types can be sealed. -/
theorem WellFormed.fits_of_sealable {L : Locations} {w : World} (hw : w.WellFormed)
    (hindex : ∀ {o : ObjectId} {name : String}, L o name → o.index < w.heap.size)
    (htypes : ∀ {o : ObjectId} {name : String}, L o name → (w.typeOf o).Sealable) : w.Fits L where
  wellFormed := hw
  index_lt := hindex
  not_usesHost ho := (htypes ho).not_usesHost
  not_array ho := (htypes ho).not_array

/-- A world has come **safely** out of another one. -/
structure Safe (L : Locations) (w w' : World) : Prop where
  later : w.Later w'
  fits : w'.Fits L
  property?_eq : ∀ {o : ObjectId} {name : String}, L o name →
    w'.property? o name = w.property? o name

section safe
variable {L : Locations} {w w₁ w₂ : World}

/-- What is sealed stays apart from arrays, since types stay. -/
theorem Fits.later (hw : w.Fits L) (h : w.Later w₁) (hw₁ : w₁.WellFormed) : w₁.Fits L where
  wellFormed := hw₁
  index_lt ho := Nat.lt_of_lt_of_le (hw.index_lt ho) h.size_le
  not_usesHost ho := by
    rw [h.typeOf_eq (hw.index_lt ho)]
    exact hw.not_usesHost ho
  not_array ho := by
    rw [h.typeOf_eq (hw.index_lt ho)]
    exact hw.not_array ho

protected theorem Fits.refl (hw : w.Fits L) : w.Safe L w := ⟨.refl w, hw, fun _ => rfl⟩

theorem Safe.trans (h₁ : w.Safe L w₁) (h₂ : w₁.Safe L w₂) : w.Safe L w₂ :=
  ⟨h₁.later.trans h₂.later, h₂.fits,
    fun ho => (h₂.property?_eq ho).trans (h₁.property?_eq ho)⟩

/-- Nothing is unsafe about a world with the same objects. -/
theorem Fits.of_heap_eq (hw : w.Fits L) (h : w₁.heap = w.heap) : w.Safe L w₁ := by
  have hobject? : ∀ o, w₁.object? o = w.object? o := fun o => by rw [object?, object?, h]
  have hobject : ∀ o, w₁.object o = w.object o := fun o => by rw [object, object, hobject?]
  have hlater : w.Later w₁ := ⟨Nat.le_of_eq (by rw [h]), fun _ => by rw [hobject?]⟩
  refine ⟨hlater, hw.later hlater ⟨⟨?_, ?_⟩, ?_⟩, fun _ => by rw [property?, property?, hobject]⟩
  · intro o x hx entry hentry
    rw [hobject?] at hx
    exact (hw.wellFormed.supports hx entry hentry).later hlater
  · intro o x hx
    rw [hobject?] at hx
    exact hw.wellFormed.names hx
  · intro o
    rw [hobject]
    exact hw.wellFormed.settled o

/-- A change of one object is safe if it keeps the type and the flag, leaves the
    object consistent and does not show in a sealed property. -/
theorem Fits.update (hw : w.Fits L) {o : ObjectId} {f : Object → Object}
    (hkeeps : ∀ x, (f x).type = x.type ∧ (f x).underConstruction = x.underConstruction)
    (hconsistent : (w.update o f).Consistent)
    (hsealed : ∀ x name, w.object? o = some x → L o name →
      (f x).property? name = x.property? name) :
    w.Safe L (w.update o f) := by
  have hlater := later_update w o fun x => (hkeeps x).1
  refine ⟨hlater, hw.later hlater ⟨hconsistent, ?_⟩, ?_⟩
  · intro p
    have hp := hw.wellFormed.settled p
    rw [object] at hp ⊢
    rw [object?_update]
    split
    · cases hx : w.object? p with
      | none => rfl
      | some x =>
        rw [hx] at hp
        exact (hkeeps x).2.trans hp
    · exact hp
  · -- Of the sealed properties only those of `o` are not trivially the same.
    intro p name hp
    rw [property?, property?, object, object, object?_update]
    split
    · next heq =>
      cases hx : w.object? p with
      | none => rfl
      | some x => exact hsealed x name (heq ▸ hx) (heq ▸ hp)
    · rfl

theorem Fits.setProperties (hw : w.Fits L) {o : ObjectId} {entries : Bindings Value}
    (hentries : ∀ entry ∈ entries, w.Supports entry.2)
    (hsealed : ∀ name ∈ Bindings.names entries, ¬ L o name) :
    w.Safe L (w.setProperties o entries) := by
  refine hw.update (fun _ => ⟨rfl, rfl⟩) (hw.wellFormed.setProperties o hentries) ?_
  intro x name _ hL
  exact Bindings.get?_setAll_of_notMem (fun hname => hsealed name hname hL) x.properties

theorem Fits.setProperty (hw : w.Fits L) {o : ObjectId} {name : String} {v : Value}
    (hv : w.Supports v) (hsealed : ¬ L o name) : w.Safe L (w.setProperty o name v) := by
  have h : w.Safe L (w.setProperties o [(name, v)]) := by
    apply hw.setProperties
    · intro entry hentry
      obtain rfl := List.mem_singleton.mp hentry
      exact hv
    · intro other hother
      obtain rfl := List.mem_singleton.mp hother
      exact hsealed
  exact h

theorem Fits.eraseProperty (hw : w.Fits L) {o : ObjectId} {name : String}
    (hsealed : ¬ L o name) : w.Safe L (w.eraseProperty o name) := by
  refine hw.update (fun _ => ⟨rfl, rfl⟩) (hw.wellFormed.update (fun _ => rfl) ?_ ?_) ?_
  · intro x hx entry hentry
    exact hw.wellFormed.supports hx entry (List.mem_filter.mp hentry).1
  · intro x hx
    exact Bindings.nodup_names_erase (hw.wellFormed.names hx)
  · intro x other hx hL
    have hne : other ≠ name := fun e => hsealed (e ▸ hL)
    exact Bindings.get?_erase_ne hne x.properties

/-- **Building is safe**: no new object is sealed. -/
theorem Fits.builds (hw : w.Fits L) {given : Value → Prop}
    (h : Builds w.heap.size given w w₁) (hgiven : ∀ u, given u → u.IsSound w) :
    w.Safe L w₁ where
  later := h.later
  fits := hw.later h.later
    ⟨h.consistent hw.wellFormed.toConsistent hgiven, h.settled hw.wellFormed.settled⟩
  property?_eq ho := (h.grows (Nat.le_refl _)).property?_eq (hw.index_lt ho) _

/-! ## Conversions are safe -/

theorem Fits.toObject (hw : w.Fits L) {v : Value} (hv : w.Supports v) :
    w.Safe L (w.toObject v).2 :=
  hw.builds (toObject_builds v (Nat.le_refl _) hv) fun _ h => h

theorem Fits.toObjects (hw : w.Fits L) {items : List Value} (hitems : w.SupportsAll items) :
    w.Safe L (w.toObjects items).2 :=
  hw.builds (toObjects_builds items (Nat.le_refl _) hitems) fun _ h => h

theorem supportsAll_toObjects (w : World) (items : List Value) :
    (w.toObjects items).2.SupportsAll (w.toObjects items).1 := by
  obtain ⟨os, hos⟩ := toObjects_eq_map w items
  rw [hos]
  intro v hv
  obtain ⟨o, -, rfl⟩ := List.mem_map.mp hv
  exact supports_object o

theorem Fits.toEntries (hw : w.Fits L) {entries : Bindings Value}
    (hentries : ∀ entry ∈ entries, w.Supports entry.2) : w.Safe L (w.toEntries entries).2 :=
  hw.builds (toEntries_builds (Nat.le_refl _) hentries) fun _ h => h

theorem Fits.allocate (hw : w.Fits L) (T : TypeDescriptor) : w.Safe L (w.allocate T).2 := by
  have h : Builds w.heap.size (fun _ => False) w (w.allocate T).2 :=
    allocate_builds T (Nat.le_refl _)
  exact hw.builds h fun _ h => h.elim

end safe

end World

end DynamicObjects
