import DynamicObjects.Host.Stock
import DynamicObjects.Proofs.Heap.Converted
import DynamicObjects.Proofs.Safety.Reachable

/-! # Attributes as a store

    Most objects keep their attributes among their properties, modules in a
    namespace, structs in the members of a shape.  All three behave as one store:
    each name of each object holds what has been written to it last.

    The argument:
    1. A read depends on nothing but the object itself (`AttributeStore.get_congr`).
    2. A write is accepted or refused by rules of its store.  If it is accepted, one
       name of one object changes (`AttributeStore.get_written_self`, `_ne`); if not, nothing does
       (`AttributeStore.set_of_not_accepts`).  What conversions make on the way is new.
    3. A run is followed write by write (`AttributeRun`), with a record of what has been
       written last under each name of each object.

    Main results:
    - `AttributeStore.set_of_accepts`, `AttributeStore.set_of_not_accepts`: when writes succeed
    - `AttributeRun.remembers`: what a store holds after a run
    - `attributes_after_run`: what reads give after a run -/

namespace DynamicObjects

namespace TypeDescriptor

/-- Objects of a type **keep attributes** in a store if both handlers say so. -/
structure KeepsAttributes (T : TypeDescriptor) (store : AttributeStore) : Prop where
  getAttr : T.slots .getAttr = some (.getAttr store)
  setAttr : T.slots .setAttr = some (.setAttr store)

/-- A type has one store. -/
theorem KeepsAttributes.unique {T : TypeDescriptor} {store store' : AttributeStore}
    (h : T.KeepsAttributes store) (h' : T.KeepsAttributes store') : store = store' := by
  cases h.getAttr.symm.trans h'.getAttr
  rfl

/-- A type without handlers of its own has the **default** ones. -/
theorem keepsAttributes_build {b : TypeBuilder} (hget : b.slots .getAttr = none)
    (hset : b.slots .setAttr = none) (ident : TypeId) :
    (b.build ident).KeepsAttributes .properties :=
  ⟨SlotTable.withDefaults_of_eq_none hget, SlotTable.withDefaults_of_eq_none hset⟩

theorem keepsAttributes_struct (shape : StructShape) (ident : TypeId) :
    (struct shape ident).KeepsAttributes .structMembers := ⟨rfl, rfl⟩

/-- Of the **builtin** types, only modules have handlers of their own. -/
theorem keepsAttributes_builtin {T : TypeDescriptor} (hT : T ∈ builtins) :
    T.KeepsAttributes (if T.category = .module then .moduleNames else .properties) := by
  simp only [builtins, List.mem_cons, List.not_mem_nil, or_false] at hT
  rcases hT with rfl | rfl | rfl | rfl | rfl | rfl | rfl | rfl | rfl | rfl <;> exact ⟨rfl, rfl⟩

end TypeDescriptor

/-! ## Reading and writing -/

namespace AttributeStore

/-- Whether a write is **accepted**: any among properties, any in a namespace that
    is there, and in a struct any of a member that is not guarded at the time. -/
def Accepts (w : World) (o : ObjectId) (name : String) : AttributeStore → Prop
  | .properties => True
  | .moduleNames => (w.namespace? o).isSome = true
  | .structMembers =>
    ∃ shape, (w.typeOf o).shape = some shape ∧ shape.hasMember name = true ∧
      (shape.isGuarded name = true → (w.object o).underConstruction = true)

/-- What a write stores: the value as it is among properties, and its object elsewhere. -/
def stored (w : World) (v : Value) : AttributeStore → Value
  | .properties => v
  | .moduleNames | .structMembers => .object (w.toObject v).1

/-- The world after a write that is accepted. -/
def written (w : World) (o : ObjectId) (name : String) (v : Value) : AttributeStore → World
  | .properties => w.setProperty o name v
  | .moduleNames =>
    (w.toObject v).2.setProperty o namespaceName
      (.dict (Bindings.set name (.object (w.toObject v).1) ((w.namespace? o).getD [])))
  | .structMembers => (w.toObject v).2.setProperty o name (.object (w.toObject v).1)

section store
variable {w w₁ : World} {o p : ObjectId} {store : AttributeStore} {name : String} {v : Value}

/-- A read depends on the object only. -/
theorem get_congr (h : w₁.object o = w.object o) (store : AttributeStore) (name : String) :
    store.get w₁ o name = store.get w o name := by
  cases store <;>
    simp only [get, World.property?, World.namespace?, World.moduleName, World.typeName,
      World.shapeOf, World.typeOf, h]

/-- The rules of a struct are those of its checks. -/
theorem accepts_structMembers :
    structMembers.Accepts w o name ↔
      ∃ shape, w.shapeOf o = .ok shape ∧ w.checkMemberWrite o shape name = .ok () := by
  simp only [Accepts, World.shapeOf, World.checkMemberWrite]
  cases (w.typeOf o).shape with
  | none => simp
  | some shape => by_cases hmember : shape.hasMember name = true <;> simp [hmember]

theorem toObject_namespace? (halive : w.isAlive o = true) (v : Value) :
    (w.toObject v).2.namespace? o = w.namespace? o := by
  rw [World.namespace?, World.namespace?, World.property?_toObject halive]

/-- To write to a namespace is to convert the value and to bind it. -/
theorem set_moduleNames (halive : w.isAlive o = true) (v : Value) :
    set o name v .moduleNames w =
      match w.namespace? o with
      | some _ => .done () (moduleNames.written w o name v)
      | none =>
        .raised (.noNamespace ((w.toObject v).2.moduleName o)) (w.toObject v).2 := by
  have hconverted : w.toValue v = (.object (w.toObject v).1, (w.toObject v).2) := rfl
  simp only [set, Run.bind_apply, Run.step_apply, Run.read_apply, id_eq, hconverted,
    toObject_namespace? halive]
  cases hnamespace : w.namespace? o with
  | none => rfl
  | some entries => simp only [written, hnamespace, Option.getD_some, Run.modify_apply]

/-- What is **accepted** is written. -/
theorem set_of_accepts (halive : w.isAlive o = true) (h : store.Accepts w o name) (v : Value) :
    store.set o name v w = .done () (store.written w o name v) := by
  cases store with
  | properties => rfl
  | moduleNames =>
    obtain ⟨entries, hentries⟩ := Option.isSome_iff_exists.mp h
    rw [set_moduleNames halive, hentries]
  | structMembers =>
    obtain ⟨shape, hshape, hchecked⟩ := accepts_structMembers.mp h
    simp only [set, Run.bind_apply, Run.read_apply, id_eq, hshape, hchecked, Run.lift_ok,
      Run.step_apply, Run.modify_apply]
    rfl

/-- What is **not accepted** fails and changes nothing: at most an object that the value
    was converted to is left over. -/
theorem set_of_not_accepts (halive : w.isAlive o = true) (h : ¬ store.Accepts w o name)
    (v : Value) : ∃ f w₁, store.set o name v w = .raised f w₁ ∧ w.Grows w₁ ∧
      (store = .structMembers → w₁ = w) := by
  cases store with
  | properties => exact absurd trivial h
  | moduleNames =>
    rw [set_moduleNames halive]
    cases hnamespace : w.namespace? o with
    | some entries => exact absurd (Option.isSome_iff_exists.mpr ⟨entries, hnamespace⟩) h
    | none => exact ⟨_, _, rfl, w.toObject_grows v, fun e => by cases e⟩
  | structMembers =>
    rw [accepts_structMembers] at h
    -- A member is checked before its value is converted.
    suffices hraised : ∃ f, set o name v .structMembers w = .raised f w by
      obtain ⟨f, hraised⟩ := hraised
      exact ⟨f, w, hraised, .refl w, fun _ => rfl⟩
    cases hshape : w.shapeOf o with
    | error f =>
      exact ⟨f, by simp only [set, Run.bind_apply, Run.read_apply, id_eq, hshape, Run.lift_error]⟩
    | ok shape =>
      cases hchecked : w.checkMemberWrite o shape name with
      | error f =>
        exact ⟨f, by simp only [set, Run.bind_apply, Run.read_apply, id_eq, hshape, Run.lift_ok,
          hchecked, Run.lift_error]⟩
      | ok _ => exact absurd ⟨shape, hshape, hchecked⟩ h

/-! ## What a write changes -/

/-- A write shows at its object only. -/
theorem object?_written_ne (hne : p ≠ o) (hlt : p.index < w.heap.size) (store : AttributeStore)
    (name : String) (v : Value) : (store.written w o name v).object? p = w.object? p := by
  cases store with
  | properties => exact World.object?_update_ne w hne _
  | moduleNames | structMembers =>
    rw [written, World.setProperty, World.object?_update_ne _ hne]
    exact (w.toObject_grows v).object?_eq hlt

theorem later_written (w : World) (o : ObjectId) (name : String) (v : Value)
    (store : AttributeStore) : w.Later (store.written w o name v) := by
  have hconverted := w.toObject_later v
  cases store with
  | properties => exact World.later_update _ _ fun _ => rfl
  | moduleNames | structMembers => exact hconverted.trans (World.later_update _ _ fun _ => rfl)

theorem typeOf_written (halive : w.isAlive o = true) (name : String) (v : Value)
    (store : AttributeStore) : (store.written w o name v).typeOf o = w.typeOf o := by
  obtain ⟨x, hx⟩ := Option.isSome_iff_exists.mp halive
  exact (later_written w o name v store).typeOf_eq (World.index_lt_of_object?_eq_some hx)

/-- What is written is what is **read next**. -/
theorem get_written_self (halive : w.isAlive o = true) (h : store.Accepts w o name) (v : Value) :
    store.get (store.written w o name v) o name = .ok (store.stored w v) := by
  cases store with
  | properties => simp only [get, written, World.property?_setProperty_self w halive, stored]
  | moduleNames =>
    simp only [get, written, World.namespace?,
      World.property?_setProperty_self _ (World.isAlive_toObject halive v), Option.bind_some,
      Bindings.get?_set_self, stored]
  | structMembers =>
    obtain ⟨shape, hshape, -⟩ := h
    have htype := typeOf_written halive name v .structMembers
    simp only [written] at htype
    simp only [get, written, World.shapeOf, htype, hshape,
      World.property?_setProperty_self _ (World.isAlive_toObject halive v), stored]
    rfl

/-- All **other names** read as before, faults included. -/
theorem get_written_ne (halive : w.isAlive o = true) (h : store.Accepts w o name) (v : Value)
    {other : String} (hne : other ≠ name) :
    store.get (store.written w o name v) o other = store.get w o other := by
  have htype := typeOf_written halive name v store
  cases store with
  | properties =>
    simp only [written] at htype
    simp only [get, written, World.property?_setProperty_ne _ _ hne, World.typeName, htype]
  | moduleNames =>
    -- The name of the module, which is part of the fault, is a property of its own.
    have hdeclared : declaredName ≠ namespaceName := by decide
    obtain ⟨entries, hentries⟩ := Option.isSome_iff_exists.mp h
    simp only [get, written, hentries, Option.getD_some, World.moduleName,
      World.property?_setProperty_ne _ _ hdeclared, World.property?_toObject halive]
    simp only [World.namespace?,
      World.property?_setProperty_self _ (World.isAlive_toObject halive v), Option.bind_some,
      Bindings.get?_set_ne hne]
  | structMembers =>
    simp only [written] at htype
    simp only [get, written, World.shapeOf, World.typeName, htype,
      World.property?_setProperty_ne _ _ hne, World.property?_toObject halive]

end store

end AttributeStore

namespace Host

variable {host : Host} {w : World} {o : ObjectId} {store : AttributeStore} {name : String}

/-- To read an attribute is to read the store, which leaves the world alone. -/
theorem getAttr_apply (hslot : (w.typeOf o).slots .getAttr = some (.getAttr store))
    (hname : markedProperty? name = none) :
    host.getAttr o name w = Run.ofExcept (store.get w o name) w := by
  simp only [getAttr, hname, host.dispatch_apply hslot]
  rfl

/-- To write an attribute is to write to the store. -/
theorem setAttr_apply {v : Value} (hslot : (w.typeOf o).slots .setAttr = some (.setAttr store))
    (hname : markedProperty? name = none) :
    host.setAttr o name v w = store.set o name v w := by
  have hhandler : host.invoke (.setAttr store) o [.text name, v] w =
      (do store.set o name v; return .null : Run Value) w := rfl
  simp only [setAttr, hname, Run.bind_apply, host.dispatch_apply hslot, hhandler]
  cases store.set o name v w <;> rfl

end Host

/-! ## Runs -/

/-- What has been written last under each name of each object, if anything has. -/
def LastWritten := ObjectId → String → Option Value

namespace LastWritten

/-- Nothing has been written. -/
def nothing : LastWritten := fun _ _ => none

/-- One more write. -/
def write (last : LastWritten) (o : ObjectId) (name : String) (v : Value) : LastWritten :=
  fun p other => if p = o ∧ other = name then some v else last p other

end LastWritten

/-- A **run** of attribute reads and writes under names without the mark, on objects
    that are alive and keep attributes; objects may be released in between. -/
inductive AttributeRun (host : Host) (w : World) : LastWritten → World → Prop where
  | start : AttributeRun host w .nothing w
  | read {last : LastWritten} {w₁ w₂ : World} (h : AttributeRun host w last w₁) {o : ObjectId}
      {store : AttributeStore} {name : String} (hstore : (w₁.typeOf o).KeepsAttributes store)
      (hname : Host.markedProperty? name = none)
      (hends : (Operation.getAttr o name).EndsIn host w₁ w₂) : AttributeRun host w last w₂
  | written {last : LastWritten} {w₁ w₂ : World} (h : AttributeRun host w last w₁) {o : ObjectId}
      {store : AttributeStore} {name : String} {v : Value} (halive : w₁.isAlive o = true)
      (hstore : (w₁.typeOf o).KeepsAttributes store) (hname : Host.markedProperty? name = none)
      (hdone : host.setAttr o name v w₁ = .done () w₂) :
      AttributeRun host w (last.write o name (store.stored w₁ v)) w₂
  | refused {last : LastWritten} {w₁ w₂ : World} (h : AttributeRun host w last w₁) {o : ObjectId}
      {store : AttributeStore} {name : String} {v : Value} {f : Fault}
      (halive : w₁.isAlive o = true) (hstore : (w₁.typeOf o).KeepsAttributes store)
      (hname : Host.markedProperty? name = none)
      (hraised : host.setAttr o name v w₁ = .raised f w₂) : AttributeRun host w last w₂
  | collect {last : LastWritten} {w₁ : World} (h : AttributeRun host w last w₁)
      (roots : List ObjectId) : AttributeRun host w last (w₁.collect roots)

section steps
variable {host : Host} {w w₁ : World} {o : ObjectId} {store : AttributeStore} {name : String}
  {v : Value}

/-- Reads change nothing. -/
theorem eq_of_endsIn_getAttr (hstore : (w.typeOf o).KeepsAttributes store)
    (hname : Host.markedProperty? name = none)
    (hends : (Operation.getAttr o name).EndsIn host w w₁) : w₁ = w := by
  have hrun : (Operation.getAttr o name).run host w =
      (do let _ ← Run.ofExcept (store.get w o name) : Run Unit) w := by
    simp only [Operation.run, Run.bind_apply, host.getAttr_apply hstore.getAttr hname]
  rw [Operation.EndsIn, hrun] at hends
  cases hget : store.get w o name with
  | error f =>
    rw [hget] at hends
    rcases hends with h | ⟨f, h⟩ <;> cases h
    rfl
  | ok v =>
    rw [hget] at hends
    rcases hends with h | ⟨f, h⟩ <;> cases h
    rfl

/-- A write succeeds just if it is accepted. -/
theorem eq_written_of_setAttr_done (halive : w.isAlive o = true)
    (hstore : (w.typeOf o).KeepsAttributes store) (hname : Host.markedProperty? name = none)
    (hdone : host.setAttr o name v w = .done () w₁) :
    store.Accepts w o name ∧ w₁ = store.written w o name v := by
  rw [host.setAttr_apply hstore.setAttr hname] at hdone
  by_cases h : store.Accepts w o name
  · rw [store.set_of_accepts halive h] at hdone
    cases hdone
    exact ⟨h, rfl⟩
  · obtain ⟨f, w₂, hraised, -⟩ := store.set_of_not_accepts halive h v
    rw [hraised] at hdone
    cases hdone

theorem grows_of_setAttr_raised {f : Fault} (halive : w.isAlive o = true)
    (hstore : (w.typeOf o).KeepsAttributes store) (hname : Host.markedProperty? name = none)
    (hraised : host.setAttr o name v w = .raised f w₁) :
    ¬ store.Accepts w o name ∧ w.Grows w₁ ∧ (store = .structMembers → w₁ = w) := by
  rw [host.setAttr_apply hstore.setAttr hname] at hraised
  by_cases h : store.Accepts w o name
  · rw [store.set_of_accepts halive h] at hraised
    cases hraised
  · obtain ⟨f, w₂, hraised', hgrows, hsame⟩ := store.set_of_not_accepts halive h v
    rw [hraised'] at hraised
    cases hraised
    exact ⟨h, hgrows, hsame⟩

end steps

section runs
variable {host : Host} {w w₁ w₂ : World} {o : ObjectId} {store : AttributeStore}
  {last : LastWritten}

/-- The invariant: as long as the object is alive, it has its type, and each name
    reads as what has been written last, or as at the start. -/
structure Remembers (w : World) (o : ObjectId) (store : AttributeStore) (last : LastWritten)
    (w₁ : World) : Prop where
  size_le : w.heap.size ≤ w₁.heap.size
  type_eq : w₁.isAlive o = true → w₁.typeOf o = w.typeOf o
  get : w₁.isAlive o = true → ∀ name,
    store.get w₁ o name = (last o name).elim (store.get w o name) .ok

/-- Whatever does not touch the object keeps the invariant. -/
theorem Remembers.of_object?_eq (h : Remembers w o store last w₁)
    (hsize : w₁.heap.size ≤ w₂.heap.size)
    (hobject : w₂.isAlive o = true → w₂.object? o = w₁.object? o) :
    Remembers w o store last w₂ := by
  have hback : w₂.isAlive o = true → w₁.isAlive o = true ∧ w₂.object o = w₁.object o := by
    intro halive
    have hsame := hobject halive
    rw [World.isAlive, hsame] at halive
    exact ⟨halive, by rw [World.object, World.object, hsame]⟩
  refine ⟨Nat.le_trans h.size_le hsize, fun halive => ?_, fun halive name => ?_⟩
  · obtain ⟨halive', hsame⟩ := hback halive
    exact (congrArg Object.type hsame).trans (h.type_eq halive')
  · obtain ⟨halive', hsame⟩ := hback halive
    rw [store.get_congr hsame, h.get halive']

/-- A write to the object keeps it with one more value on record. -/
theorem Remembers.written {name : String} {v : Value} (h : Remembers w o store last w₁)
    (halive : w₁.isAlive o = true) (haccepts : store.Accepts w₁ o name) :
    Remembers w o store (last.write o name (store.stored w₁ v)) (store.written w₁ o name v) := by
  have hsize := (store.later_written w₁ o name v).size_le
  have htype := store.typeOf_written halive name v
  refine ⟨Nat.le_trans h.size_le hsize, fun _ => htype.trans (h.type_eq halive),
    fun _ other => ?_⟩
  by_cases hname : other = name
  · subst hname
    rw [AttributeStore.get_written_self halive haccepts, LastWritten.write, if_pos ⟨rfl, rfl⟩]
    rfl
  · rw [AttributeStore.get_written_ne halive haccepts v hname, LastWritten.write,
      if_neg fun hwrite => hname hwrite.2, h.get halive]

/-- **Every run** keeps the invariant, step by step. -/
theorem AttributeRun.remembers (hrun : AttributeRun host w last w₁)
    (hstore : (w.typeOf o).KeepsAttributes store) (halive : w.isAlive o = true) :
    Remembers w o store last w₁ := by
  obtain ⟨x, hx⟩ := Option.isSome_iff_exists.mp halive
  have hlt := World.index_lt_of_object?_eq_some hx
  induction hrun with
  | start => exact ⟨Nat.le_refl _, fun _ => rfl, fun _ _ => rfl⟩
  | read _ hstore' hname hends ih =>
    obtain rfl := eq_of_endsIn_getAttr hstore' hname hends
    exact ih
  | @written last w₁ w₂ _ p store' name v halive' hstore' hname hdone ih =>
    obtain ⟨haccepts, rfl⟩ := eq_written_of_setAttr_done halive' hstore' hname hdone
    by_cases hp : o = p
    · subst hp
      obtain rfl := hstore.unique (ih.type_eq halive' ▸ hstore')
      exact ih.written halive' haccepts
    · -- What is on record about the object is not touched either.
      have hother : (last.write p name (store'.stored w₁ v)) o = last o :=
        funext fun other => if_neg fun h => hp h.1
      have hsame := store'.object?_written_ne hp (Nat.lt_of_lt_of_le hlt ih.size_le) name v
      have hkept := ih.of_object?_eq (store'.later_written w₁ p name v).size_le fun _ => hsame
      exact ⟨hkept.size_le, hkept.type_eq, fun h n => by rw [hkept.get h n, hother]⟩
  | refused _ halive' hstore' hname hraised ih =>
    obtain ⟨-, hgrows, -⟩ := grows_of_setAttr_raised halive' hstore' hname hraised
    exact ih.of_object?_eq hgrows.size_le fun _ =>
      hgrows.object?_eq (Nat.lt_of_lt_of_le hlt ih.size_le)
  | @collect last w₁ _ roots ih =>
    refine ih.of_object?_eq (Nat.le_of_eq (World.size_collect w₁ roots).symm) fun h => ?_
    obtain ⟨y, hy⟩ := Option.isSome_iff_exists.mp h
    rw [hy, World.object?_collect hy]

end runs

/-- **Attributes** are one store, whatever keeps them: after a run, a name of an object
    reads as the value that has been written last under this name of this object, and
    as before the run if none has.  A write succeeds just if it is accepted.  It never
    fails among properties; where it fails it changes nothing, be it that a namespace is
    missing, or that a struct has no such member or guards it. -/
theorem attributes_after_run {host : Host} {w w' : World} {last : LastWritten} {o : ObjectId}
    {store : AttributeStore} (hrun : AttributeRun host w last w')
    (hstore : (w.typeOf o).KeepsAttributes store) (halive : w.isAlive o = true)
    (halive' : w'.isAlive o = true) :
    (∀ name, Host.markedProperty? name = none →
      host.getAttr o name w = Run.ofExcept (store.get w o name) w ∧
      host.getAttr o name w' =
        match last o name with
        | some v => .done v w'
        | none => Run.ofExcept (store.get w o name) w') ∧
    ∀ name v, Host.markedProperty? name = none →
      (store.Accepts w' o name → ∃ w₁, host.setAttr o name v w' = .done () w₁ ∧
        host.getAttr o name w₁ = .done (store.stored w' v) w₁) ∧
      (¬ store.Accepts w' o name → ∃ f w₁, host.setAttr o name v w' = .raised f w₁ ∧
        w'.Grows w₁ ∧ (store = .structMembers → w₁ = w')) := by
  -- From here on only the last write counts, and how it is read back.
  have hremembers := hrun.remembers hstore halive
  have hstore' : (w'.typeOf o).KeepsAttributes store := hremembers.type_eq halive' ▸ hstore
  refine ⟨fun name hname => ⟨host.getAttr_apply hstore.getAttr hname, ?_⟩,
    fun name v hname => ⟨fun haccepts => ?_, fun hrefuses => ?_⟩⟩
  · rw [host.getAttr_apply hstore'.getAttr hname, hremembers.get halive']
    cases last o name <;> rfl
  · have hwritten := (host.setAttr_apply hstore'.setAttr hname).trans
      (AttributeStore.set_of_accepts halive' haccepts v)
    have hslot : ((store.written w' o name v).typeOf o).slots .getAttr =
        some (.getAttr store) := store.typeOf_written halive' name v ▸ hstore'.getAttr
    refine ⟨_, hwritten, ?_⟩
    rw [host.getAttr_apply hslot hname, AttributeStore.get_written_self halive' haccepts]
    rfl
  · rw [host.setAttr_apply hstore'.setAttr hname]
    exact store.set_of_not_accepts halive' hrefuses v

/-- The prototype of a struct and a clone of it. -/
def points : World :=
  let T := TypeDescriptor.struct ⟨"Point", ["x", "y"], ["y"]⟩ (.declared 0)
  let named : Bindings Value := [(declaredName, .text "Point")]
  { World.initial with
    heap := World.initial.heap ++ #[some ⟨T, named, false, false⟩, some ⟨T, named, false, false⟩]
    declared := [("Point", T)]
    nextIdent := 1 }

/-- One member of the prototype is written, the guarded one is refused; the clone
    reads as before. -/
theorem attributes_prototype_written :
    ∃ last w, AttributeRun Stock.host points last w ∧
      Stock.host.getAttr ⟨3⟩ "x" w = .done (.object ⟨5⟩) w ∧
      Stock.host.getAttr ⟨3⟩ "y" w = .done (.object World.nullObject) w ∧
      Stock.host.getAttr ⟨4⟩ "x" w = .done (.object World.nullObject) w := by
  have hstore : ∀ {w : World}, w.typeOf ⟨3⟩ = points.typeOf ⟨3⟩ →
      (w.typeOf ⟨3⟩).KeepsAttributes .structMembers := fun h => h ▸ ⟨rfl, rfl⟩
  have hx : Host.markedProperty? "x" = none := by decide
  have hy : Host.markedProperty? "y" = none := by decide
  have hstart : AttributeRun Stock.host points .nothing points := .start
  have hwritten := hstart.written (o := ⟨3⟩) (v := .int 1) rfl (hstore rfl) hx rfl
  have hrun := hwritten.refused (o := ⟨3⟩) (v := .int 2) rfl (hstore rfl) hy rfl
  have hclonestore : (points.typeOf ⟨4⟩).KeepsAttributes .structMembers := ⟨rfl, rfl⟩
  have hprototype := attributes_after_run hrun (hstore rfl) rfl rfl
  have hclone := attributes_after_run hrun hclonestore rfl rfl
  exact ⟨_, _, hrun, (hprototype.1 "x" hx).2, (hprototype.1 "y" hy).2, (hclone.1 "x" hx).2⟩

end DynamicObjects
