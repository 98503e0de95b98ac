import DynamicObjects.Construction
import DynamicObjects.Proofs.Conversion.Positions
import DynamicObjects.Proofs.Safety.Singletons

/-! # Conversion there and back

    To read a converted value back is to put the payload in the place of every
    object that conversion has made, and so on inside the payload.  That gives the
    value again except at one kind of position: a raw null or truth value and its
    singleton become the same object, so that no reading can tell them apart.
    One that leaves the singletons alone gives the singletons; one that opens them
    as well gives the raw values.

    The argument:
    1. What a value becomes is its conversion (`World.IsConversion`), which says at
       each position what the payload is.
    2. So reading it back is an induction on the value; the positions that hold no
       raw list are its leaves.
    3. A reading has one result only, whatever the world is like.

    Main results:
    - `World.ReadsBack.functional`: reading back is a partial function
    - `World.IsConversion.readsBack`: a conversion reads back as the value
    - `World.toObject_roundTrips`: what holds of every conversion -/

namespace DynamicObjects

/-! ## Leaves of a value -/

namespace Value

mutual

/-- Change what a value holds at every position other than lists. -/
def mapLeaves (f : Value → Value) : Value → Value
  | .list items => .list (mapLeavesAll f items)
  | v => f v

/-- Change the leaves of all values of a list. -/
def mapLeavesAll (f : Value → Value) : List Value → List Value
  | [] => []
  | v :: rest => mapLeaves f v :: mapLeavesAll f rest

end

/-- The singleton instead of the raw value. -/
def withSingleton : Value → Value
  | .null => .object World.nullObject
  | .bool b => World.boolValue b
  | v => v

/-- The raw value instead of its singleton. -/
def withoutSingleton : Value → Value
  | .object o =>
    if o = World.nullObject then .null
    else if o = World.trueObject then .bool true
    else if o = World.falseObject then .bool false
    else .object o
  | v => v

mutual

/-- Leaves that stay as they are leave the value as it is. -/
theorem mapLeaves_eq_self {f : Value → Value} (v : Value)
    (h : ∀ path u, v.at? path = some u → (∀ items, u ≠ .list items) → f u = u) :
    v.mapLeaves f = v := by
  match v with
  | .null | .bool _ | .int _ | .float _ | .complex _ | .text _ | .function _ | .dict _
  | .foreign _ | .object _ => exact h [] _ rfl fun _ e => by cases e
  | .list items =>
    rw [mapLeaves, mapLeavesAll_eq_self items]
    intro i u hu path
    exact fun u' hu' => h (i :: path) u' (Option.bind_eq_some_iff.mpr ⟨u, hu, hu'⟩)

theorem mapLeavesAll_eq_self {f : Value → Value} (items : List Value)
    (h : ∀ (i : Nat) (v : Value), items[i]? = some v → ∀ path u, v.at? path = some u →
      (∀ items, u ≠ .list items) → f u = u) :
    mapLeavesAll f items = items := by
  match items with
  | [] => rfl
  | v :: rest =>
    rw [mapLeavesAll, mapLeaves_eq_self v (h 0 v rfl),
      mapLeavesAll_eq_self rest fun i u hu => h (i + 1) u hu]

end

/-- Without raw values that have singletons, nothing is replaced by one. -/
theorem mapLeaves_withSingleton_eq_self {v : Value}
    (h : ∀ path u, v.at? path = some u → u ≠ .null ∧ ∀ b, u ≠ .bool b) :
    v.mapLeaves withSingleton = v := by
  refine v.mapLeaves_eq_self fun path u hu _ => ?_
  obtain ⟨hnull, hbool⟩ := h path u hu
  cases u with
  | null => exact absurd rfl hnull
  | bool b => exact absurd rfl (hbool b)
  | _ => rfl

/-- Without singletons, none is replaced. -/
theorem mapLeaves_withoutSingleton_eq_self {v : Value}
    (h : ∀ path s, v.at? path = some (.object s) → s ∉ World.singletons) :
    v.mapLeaves withoutSingleton = v := by
  refine v.mapLeaves_eq_self fun path u hu _ => ?_
  cases u with
  | object s =>
    have hs := h path s hu
    simp only [World.singletons, List.mem_cons, List.not_mem_nil, or_false, not_or] at hs
    rw [withoutSingleton, if_neg hs.1, if_neg hs.2.1, if_neg hs.2.2]
  | _ => rfl

theorem references_subset_of_mem {v : Value} {items : List Value} (h : v ∈ items) :
    v.references ⊆ referencesList items := by
  induction items with
  | nil => cases h
  | cons first rest ih =>
    intro o ho
    rw [referencesList, List.mem_append]
    rcases List.mem_cons.mp h with rfl | h
    · exact .inl ho
    · exact .inr (ih h ho)

/-- What stands at a position of a value refers to what the value refers to. -/
theorem references_subset_of_at? {v u : Value} {path : List Nat} (h : v.at? path = some u) :
    u.references ⊆ v.references := by
  induction path generalizing v with
  | nil =>
    obtain rfl := Option.some.inj h
    exact fun _ ho => ho
  | cons i path ih =>
    cases v with
    | list items =>
      obtain ⟨first, hfirst, h⟩ := Option.bind_eq_some_iff.mp h
      have hmem : first ∈ items := List.mem_of_getElem? hfirst
      exact fun o ho => references_subset_of_mem hmem (ih h ho)
    | _ => cases h

end Value

namespace World

/-! ## Reading back -/

mutual

/-- A value **reads back** as another one: the objects to open give way to what
    their payloads read back as, in lists as well. -/
inductive ReadsBack (w : World) (opens : ObjectId → Prop) : Value → Value → Prop where
  | opened {o : ObjectId} {v u : Value} (ho : opens o) (hpayload : w.payload? o = some v)
      (h : ReadsBack w opens v u) : ReadsBack w opens (.object o) u
  | kept {o : ObjectId} (ho : ¬ opens o) : ReadsBack w opens (.object o) (.object o)
  | list {items items' : List Value} (h : ReadAllBack w opens items items') :
      ReadsBack w opens (.list items) (.list items')
  | raw {v : Value} (hobject : ∀ o, v ≠ .object o) (hlist : ∀ items, v ≠ .list items) :
      ReadsBack w opens v v

/-- The values of a list read back one by one. -/
inductive ReadAllBack (w : World) (opens : ObjectId → Prop) : List Value → List Value → Prop where
  | nil : ReadAllBack w opens [] []
  | cons {v v' : Value} {rest rest' : List Value} (h : ReadsBack w opens v v')
      (hrest : ReadAllBack w opens rest rest') : ReadAllBack w opens (v :: rest) (v' :: rest')

end

section reading
variable {w : World} {opens : ObjectId → Prop}

mutual

/-- Reading back has **one result**. -/
theorem ReadsBack.functional {v u u' : Value} (h : w.ReadsBack opens v u)
    (h' : w.ReadsBack opens v u') : u = u' := by
  match h with
  | .opened ho hpayload h =>
    cases h' with
    | opened ho' hpayload' h' =>
      obtain rfl := Option.some.inj (hpayload.symm.trans hpayload')
      exact h.functional h'
    | kept ho' => exact absurd ho ho'
    | raw hobject => exact absurd rfl (hobject _)
  -- An object is opened or kept, and what is no object is neither.
  | .kept ho =>
    cases h' with
    | opened ho' => exact absurd ho' ho
    | kept => rfl
    | raw => rfl
  | .list h =>
    cases h' with
    | list h' => rw [h.functional h']
    | raw _ hlist => exact absurd rfl (hlist _)
  | .raw hobject hlist =>
    cases h' with
    | opened => exact absurd rfl (hobject _)
    | kept => rfl
    | list => exact absurd rfl (hlist _)
    | raw => rfl

theorem ReadAllBack.functional {items us us' : List Value} (h : w.ReadAllBack opens items us)
    (h' : w.ReadAllBack opens items us') : us = us' := by
  match h with
  | .nil =>
    cases h'
    rfl
  | .cons hfirst hrest =>
    cases h' with
    | cons hfirst' hrest' => rw [hfirst.functional hfirst', hrest.functional hrest']

end

/-- A reading of the values made from place `start` on **gives back** `f` of each
    leaf: it opens the new objects, and what it makes of singletons and of the
    given objects is what `f` says. -/
structure GivesBack (w : World) (start : Nat) (opens : ObjectId → Prop) (f : Value → Value)
    (v : Value) : Prop where
  new : ∀ {o : ObjectId}, start ≤ o.index → opens o
  raw : ∀ {u : Value}, (typeFor? u).isSome = true → f u = u
  null : w.ReadsBack opens (.object nullObject) (f .null)
  bool : ∀ b, w.ReadsBack opens (boolValue b) (f (.bool b))
  object : ∀ o ∈ v.references, w.ReadsBack opens (.object o) (f (.object o))

theorem GivesBack.of_subset {start : Nat} {f : Value → Value} {v u : Value}
    (h : w.GivesBack start opens f v) (hsubset : u.references ⊆ v.references) :
    w.GivesBack start opens f u :=
  { h with object := fun o ho => h.object o (hsubset ho) }

mutual

/-- **A conversion reads back** as the value it is the conversion of. -/
theorem IsConversion.readsBack {start : Nat} {f : Value → Value} {o : ObjectId} (v : Value)
    (h : w.GivesBack start opens f v) (ho : w.IsConversion start o v) :
    w.ReadsBack opens (.object o) (v.mapLeaves f) := by
  match v with
  | .null =>
    obtain rfl : o = nullObject := ho
    exact h.null
  | .bool b =>
    obtain rfl : o = boolObject b := ho
    exact h.bool b
  | .object p =>
    obtain rfl : o = p := ho
    exact h.object o List.mem_cons_self
  -- These get a new object, which is opened, and hold nothing to be read further.
  | .int _ | .float _ | .complex _ | .text _ | .function _ | .dict _ | .foreign _ =>
    obtain ⟨hnew, -, hpayload⟩ := ho
    rw [Value.mapLeaves, h.raw rfl]
    · exact .opened (h.new hnew) hpayload (.raw (by simp) (by simp))
    · simp
  | .list items =>
    rw [IsConversion] at ho
    obtain ⟨hnew, -, os, hpayload, hos⟩ := ho
    rw [Value.mapLeaves]
    exact .opened (h.new hnew) hpayload (.list (AreConversions.readAllBack items h hos))

theorem AreConversions.readAllBack {start : Nat} {f : Value → Value} {os : List ObjectId}
    (items : List Value) (h : w.GivesBack start opens f (.list items))
    (hos : w.AreConversions start os items) :
    w.ReadAllBack opens (os.map .object) (Value.mapLeavesAll f items) := by
  match items with
  | [] =>
    obtain rfl : os = [] := hos
    exact .nil
  | v :: rest =>
    rw [AreConversions] at hos
    obtain ⟨o, os, rfl, hfirst, hrest⟩ := hos
    rw [Value.mapLeavesAll, List.map_cons]
    refine .cons (hfirst.readsBack v (h.of_subset ?_))
      (AreConversions.readAllBack rest (h.of_subset ?_) hrest)
    · exact List.subset_append_left _ _
    · exact List.subset_append_right _ _

end

end reading

/-! ## Types -/

/-- The builtin type that goes with the kind of a value; an object has its own. -/
def typeOfKind (w : World) : Value → TypeDescriptor
  | .null => .null
  | .bool _ => .bool
  | .int _ => .integer
  | .float _ => .float
  | .complex _ => .complex
  | .text _ => .string
  | .list _ => .array
  | .function _ => .function
  | .dict _ => .wrapper
  | .foreign _ => .wrapper
  | .object o => w.typeOf o

section types
variable {w w' : World} {start : Nat} {o : ObjectId}

/-- Conversions are of the type that goes with the kind. -/
theorem IsConversion.typeOf_eq {v : Value} (hw : w.HasSingletons)
    (h : w.IsConversion start o v) : w.typeOf o = w.typeOfKind v := by
  cases v with
  | null => exact (congrArg w.typeOf h).trans hw.typeOf_nullObject
  | bool b => exact (congrArg w.typeOf h).trans (hw.typeOf_boolObject b)
  | object p => exact congrArg w.typeOf h
  | list items =>
    rw [IsConversion] at h
    exact h.2.1
  | _ => exact (Option.some.inj h.2.1).symm

/-- What only grows leaves the types of existing objects. -/
theorem Grows.typeOfKind_eq {v : Value} (h : w.Grows w')
    (hknown : ∀ o ∈ v.references, o.index < w.heap.size) : w'.typeOfKind v = w.typeOfKind v := by
  cases v with
  | object o =>
    rw [typeOfKind, typeOfKind, typeOf, typeOf, h.object_eq (hknown o List.mem_cons_self)]
  | _ => rfl

/-- Conversions of values that neither are nor have singletons are new, all others
    are those singletons and objects. -/
theorem IsConversion.new_or_same {v : Value} (h : w.IsConversion start o v) :
    (if (typeFor? v).isSome then start ≤ o.index else .object o = v.withSingleton) := by
  cases v with
  | null | bool _ | object _ => exact congrArg Value.object h
  | list items =>
    rw [IsConversion] at h
    exact h.1
  | _ => exact h.1

end types

/-! ## The round trip -/

/-- What holds of the **conversion** of a value to an object, from one world to
    another. -/
structure RoundTrips (w : World) (v : Value) (o : ObjectId) (w' : World) : Prop where
  /-- The protocol of construction succeeds with just that. -/
  constructed : ∀ (natives : Natives) (T : TypeDescriptor), typeFor? v = some T →
    natives.newObject T [v] w = .done o w'
  /-- No existing object is changed. -/
  grows : w.Grows w'
  /-- Null and the truth values become their singletons and an object stays itself;
      nothing is made for them. -/
  same : typeFor? v = none → .object o = v.withSingleton ∧ w' = w
  /-- Every position is converted: to an object of the type that goes with the kind,
      which is new unless the value has a singleton or is an object. -/
  position : ∀ (path : List Nat) (u : Value), v.at? path = some u →
    ∃ p, w'.objectAt? o path = some p ∧ w'.typeOf p = w.typeOfKind u ∧
      if (typeFor? u).isSome then w.heap.size ≤ p.index else .object p = u.withSingleton
  /-- No two positions share a new object. -/
  distinct : ∀ (path path' : List Nat) (u u' : Value) (p p' : ObjectId), path ≠ path' →
    v.at? path = some u → v.at? path' = some u' → (typeFor? u).isSome = true →
    (typeFor? u').isSome = true → w'.objectAt? o path = some p → w'.objectAt? o path' = some p' →
    p ≠ p'
  /-- To open the new objects gives the value, with singletons at the leaves. -/
  reads_new : ∀ u, w'.ReadsBack (fun p => w.heap.size ≤ p.index) (.object o) u ↔
    u = v.mapLeaves Value.withSingleton
  /-- To open the singletons, too, gives the value, with raw values at the leaves. -/
  reads_all : ∀ u,
    w'.ReadsBack (fun p => w.heap.size ≤ p.index ∨ p ∈ singletons) (.object o) u ↔
      u = v.mapLeaves Value.withoutSingleton
  /-- Without raw values that have singletons, the former is exactly the value. -/
  exact_new : (∀ path u, v.at? path = some u → u ≠ .null ∧ ∀ b, u ≠ .bool b) →
    v.mapLeaves Value.withSingleton = v
  /-- Without singletons, the latter is. -/
  exact_all : (∀ path s, v.at? path = some (.object s) → s ∉ singletons) →
    v.mapLeaves Value.withoutSingleton = v

section roundTrip
variable {w w' : World} {v : Value}

/-- Readings that open the new objects only. -/
theorem givesBack_new (hsingletons : w.HasSingletons)
    (hknown : ∀ o ∈ v.references, o.index < w.heap.size) :
    w'.GivesBack w.heap.size (fun p => w.heap.size ≤ p.index) Value.withSingleton v where
  new ho := ho
  raw {u} hu := by
    cases u with
    | null | bool _ | object _ => cases hu
    | _ => rfl
  null := .kept (Nat.not_le_of_lt (hsingletons.index_lt (by decide)))
  bool b := .kept (Nat.not_le_of_lt (hsingletons.index_lt (by cases b <;> decide)))
  object o ho := .kept (Nat.not_le_of_lt (hknown o ho))

/-- Readings that open the singletons as well, which hold their raw values. -/
theorem givesBack_all (hintact : w'.SingletonsIntact)
    (hknown : ∀ o ∈ v.references, o.index < w.heap.size) :
    w'.GivesBack w.heap.size (fun p => w.heap.size ≤ p.index ∨ p ∈ singletons)
      Value.withoutSingleton v := by
  have hnull : w'.ReadsBack (fun p => w.heap.size ≤ p.index ∨ p ∈ singletons)
      (.object nullObject) .null :=
    .opened (.inr (by decide)) (hintact nullObject (by decide)) (.raw (by simp) (by simp))
  have hbool : ∀ b, w'.ReadsBack (fun p => w.heap.size ≤ p.index ∨ p ∈ singletons)
      (boolValue b) (.bool b) := by
    intro b
    cases b
    · exact .opened (.inr (by decide)) (hintact falseObject (by decide)) (.raw (by simp) (by simp))
    · exact .opened (.inr (by decide)) (hintact trueObject (by decide)) (.raw (by simp) (by simp))
  refine ⟨fun ho => .inl ho, fun {u} hu => ?_, hnull, hbool, fun o ho => ?_⟩
  · cases u with
    | null | bool _ | object _ => cases hu
    | _ => rfl
  · -- A given object is one of the singletons or is left alone.
    rw [Value.withoutSingleton]
    split
    · next h => exact h ▸ hnull
    split
    · next h => exact h ▸ hbool true
    split
    · next h => exact h ▸ hbool false
    · next hn ht hf =>
      refine .kept ?_
      have hlt := hknown o ho
      simp [singletons, hn, ht, hf, hlt]

/-- **Conversion** never fails, changes nothing, and can be read back. -/
theorem toObject_roundTrips (hsingletons : w.HasSingletons) (hintact : w.SingletonsIntact)
    (hknown : ∀ o ∈ v.references, o.index < w.heap.size) :
    w.RoundTrips v (w.toObject v).1 (w.toObject v).2 := by
  have hconversion := toObject_isConversion v (Nat.le_refl w.heap.size)
  have horder := w.toObject_isInOrder v
  have hgrows := w.toObject_grows v
  have hsingletons' := hsingletons.later (w.toObject_later v)
  constructor
  case constructed => exact fun natives T hT => natives.newObject_eq_toObject hT w
  case grows => exact hgrows
  case same =>
    intro hnone
    cases v with
    | null | bool _ | object _ => exact ⟨rfl, rfl⟩
    | _ => cases hnone
  case position =>
    intro path u hu
    obtain ⟨p, hp, hconversion⟩ := exists_objectAt? hconversion hu
    refine ⟨p, hp, ?_, hconversion.new_or_same⟩
    rw [hconversion.typeOf_eq hsingletons']
    exact hgrows.typeOfKind_eq fun o ho => hknown o (Value.references_subset_of_at? hu ho)
  case distinct =>
    intro path path' u u' p p' hne hu hu' hnew hnew' hp hp'
    exact horder.position_unique hne hu hnew hu' hnew' hp hp'
  -- Reading back has one result, so that it is enough to know one.
  case reads_new =>
    have hreads := hconversion.readsBack v (givesBack_new hsingletons hknown)
    exact fun u => ⟨fun h => h.functional hreads, fun h => h ▸ hreads⟩
  case reads_all =>
    have hreads := hconversion.readsBack v
      (givesBack_all (hintact.grows hsingletons hgrows) hknown)
    exact fun u => ⟨fun h => h.functional hreads, fun h => h ▸ hreads⟩
  case exact_new => exact Value.mapLeaves_withSingleton_eq_self
  case exact_all => exact Value.mapLeaves_withoutSingleton_eq_self

/-- A world with a string, and a value that has a position of almost every kind,
    with raw values beside singletons. -/
def withString : World := (initial.toObject (.text "text")).2

def nested : Value :=
  .list [.null, .int 1, .list [.object ⟨3⟩, .bool false, .list []],
    .dict [("key", .object ⟨3⟩)], .object nullObject, .foreign ⟨0, "handle"⟩]

theorem toObject_roundTrips_nested :
    (withString.HasSingletons ∧ withString.SingletonsIntact ∧
        ∀ o ∈ nested.references, o.index < withString.heap.size) ∧
      withString.RoundTrips nested (withString.toObject nested).1
        (withString.toObject nested).2 := by
  have hsingletons : withString.HasSingletons :=
    hasSingletons_initial.later (initial.toObject_later (.text "text"))
  have hintact : withString.SingletonsIntact :=
    SingletonsIntact.grows (fun _ _ => rfl) hasSingletons_initial
      (initial.toObject_grows (.text "text"))
  have hknown : ∀ o ∈ nested.references, o.index < withString.heap.size := by decide
  exact ⟨⟨hsingletons, hintact, hknown⟩, toObject_roundTrips hsingletons hintact hknown⟩

/-- A list of null and of its singleton becomes the same array as a list of null
    twice, and no reading gives it back: what is left of null at both places is
    the singleton, or the raw value. -/
theorem toObject_forgets_null :
    initial.HasSingletons ∧ initial.SingletonsIntact ∧
      initial.toObject (.list [.null, .object nullObject]) =
        initial.toObject (.list [.null, .null]) ∧
      ∀ opens : ObjectId → Prop, ¬ (initial.toObject (.list [.null, .object nullObject])).2.ReadsBack
        opens (.object (initial.toObject (.list [.null, .object nullObject])).1)
        (.list [.null, .object nullObject]) := by
  refine ⟨hasSingletons_initial, fun _ _ => rfl, rfl, fun opens h => ?_⟩
  -- Both elements of the array are the same object, so that they read back alike.
  cases h with
  | opened _ hpayload h =>
    obtain rfl := Option.some.inj hpayload
    cases h with
    | list h =>
      cases h with
      | cons hfirst hrest =>
        cases hrest with
        | cons hsecond _ => cases hfirst.functional hsecond

end roundTrip

end World

end DynamicObjects
