import DynamicObjects.Proofs.Heap.Building

/-! # What conversions give

    `World.IsConversion` says of an object in a world that it is what a value
    becomes: the value itself if it is an object, the singleton if it has one,
    and otherwise a new object whose type is that of the value and whose payload
    is the value, with the conversions of its elements if it is a list.

    Conversions give such objects, and they remain conversions as long as the
    new objects are left alone. -/

namespace DynamicObjects

namespace World

mutual

/-- An object is the **conversion** of a value, made of objects from place
    `start` on. -/
def IsConversion (start : Nat) (w : World) (o : ObjectId) : Value → Prop
  | .null => o = nullObject
  | .bool b => o = boolObject b
  | .object p => o = p
  | .list items =>
    start ≤ o.index ∧ w.typeOf o = .array ∧
      ∃ os : List ObjectId, w.payload? o = some (.list (os.map .object)) ∧
        AreConversions start w os items
  | v => start ≤ o.index ∧ typeFor? v = some (w.typeOf o) ∧ w.payload? o = some v

/-- Objects are the conversions of the values of a list, one by one. -/
def AreConversions (start : Nat) (w : World) : List ObjectId → List Value → Prop
  | os, [] => os = []
  | os, v :: rest =>
    ∃ o os', os = o :: os' ∧ IsConversion start w o v ∧ AreConversions start w os' rest

end

/-! ## Persistence -/

/-- Objects from place `start` on are left alone. -/
def KeepsFrom (start : Nat) (w w' : World) : Prop :=
  ∀ {o : ObjectId}, start ≤ o.index → o.index < w.heap.size → w'.object? o = w.object? o

theorem Grows.keepsFrom {w w' : World} (h : w.Grows w') (start : Nat) : w.KeepsFrom start w' :=
  fun _ ho => h.object?_eq ho

section persistence
variable {start : Nat} {w w' : World}

theorem KeepsFrom.payload?_eq {o : ObjectId} {v : Value} (h : w.KeepsFrom start w')
    (hnew : start ≤ o.index) (hpayload : w.payload? o = some v) :
    w'.typeOf o = w.typeOf o ∧ w'.payload? o = some v := by
  have heq := h hnew (index_lt_of_property?_eq_some hpayload)
  rw [← hpayload, typeOf, typeOf, payload?, payload?, property?, property?, object, object, heq]
  exact ⟨rfl, rfl⟩

mutual

/-- A conversion stays one as long as the new objects are left alone, however
    many objects count as new. -/
theorem IsConversion.mono {start' : Nat} (hle : start' ≤ start) (h : w.KeepsFrom start w')
    {o : ObjectId} (v : Value) (ho : w.IsConversion start o v) : w'.IsConversion start' o v := by
  match v with
  | .null | .bool _ | .object _ => exact ho
  | .int _ | .float _ | .complex _ | .text _ | .function _ | .dict _ | .foreign _ =>
    obtain ⟨hnew, htype, hpayload⟩ := ho
    obtain ⟨htype', hpayload'⟩ := h.payload?_eq hnew hpayload
    exact ⟨Nat.le_trans hle hnew, htype' ▸ htype, hpayload'⟩
  | .list items =>
    rw [IsConversion] at ho
    obtain ⟨hnew, htype, os, hpayload, hos⟩ := ho
    obtain ⟨htype', hpayload'⟩ := h.payload?_eq hnew hpayload
    rw [IsConversion]
    exact ⟨Nat.le_trans hle hnew, htype'.trans htype, os, hpayload',
      AreConversions.mono hle h items hos⟩

theorem AreConversions.mono {start' : Nat} (hle : start' ≤ start) (h : w.KeepsFrom start w')
    {os : List ObjectId} (items : List Value) (hos : w.AreConversions start os items) :
    w'.AreConversions start' os items := by
  match items with
  | [] => exact hos
  | v :: rest =>
    rw [AreConversions] at hos
    obtain ⟨o, os', rfl, hfirst, hrest⟩ := hos
    rw [AreConversions]
    exact ⟨o, os', rfl, IsConversion.mono hle h v hfirst, AreConversions.mono hle h rest hrest⟩

end

end persistence

/-! ## Conversions of values -/

/-- A payload is the list of one sequence of objects only. -/
theorem eq_of_payload_objects {w : World} {o : ObjectId} {os os' : List ObjectId}
    (h : w.payload? o = some (.list (os.map .object)))
    (h' : w.payload? o = some (.list (os'.map .object))) : os = os' :=
  List.map_injective_iff.mpr (fun _ _ h => Value.object.inj h)
    (Value.list.inj (Option.some.inj (h.symm.trans h')))

/-- The payload of an object that is alive can be set; its type stays. -/
theorem setPayload_self {w : World} {o : ObjectId} {T : TypeDescriptor}
    (h : (w.object? o).map Object.type = some T) (v : Value) :
    (w.setPayload o v).typeOf o = T ∧ (w.setPayload o v).payload? o = some v := by
  obtain ⟨x, hx, rfl⟩ := Option.map_eq_some_iff.mp h
  constructor
  · rw [typeOf, object, setPayload, setProperty, object?_update_self, hx]
    rfl
  · exact property?_setProperty_self w (by rw [isAlive, hx]; rfl) payloadName v

theorem toObject_builds_any (w : World) (v : Value) :
    Builds w.heap.size (fun _ => True) w (w.toObject v).2 :=
  toObject_builds v (Nat.le_refl _) fun _ _ => trivial

theorem box_grows (w : World) (T : TypeDescriptor) (v : Value) : w.Grows (w.box T v).2 := by
  have hbuilds : Builds w.heap.size (fun _ => True) w (w.box T v).2 :=
    box_builds T (Nat.le_refl _) fun _ _ => trivial
  exact hbuilds.grows (Nat.le_refl _)

/-- Conversions grow the world, whatever is converted. -/
theorem toObject_grows (w : World) (v : Value) : w.Grows (w.toObject v).2 :=
  (w.toObject_builds_any v).grows (Nat.le_refl _)

theorem toObject_later (w : World) (v : Value) : w.Later (w.toObject v).2 :=
  (w.toObject_builds_any v).later

section alive
variable {w : World} {o : ObjectId} (halive : w.isAlive o = true)
include halive

/-- A conversion leaves an object that is alive as it is. -/
theorem object?_toObject (v : Value) : (w.toObject v).2.object? o = w.object? o := by
  obtain ⟨x, hx⟩ := Option.isSome_iff_exists.mp halive
  exact (w.toObject_grows v).object?_eq (index_lt_of_object?_eq_some hx)

theorem property?_toObject (v : Value) (key : String) :
    (w.toObject v).2.property? o key = w.property? o key := by
  rw [property?, property?, object, object, object?_toObject halive]

theorem isAlive_toObject (v : Value) : (w.toObject v).2.isAlive o = true := by
  rwa [isAlive, object?_toObject halive]

end alive

theorem toObjects_grows (w : World) (items : List Value) : w.Grows (w.toObjects items).2 := by
  have h : Builds w.heap.size (fun _ => True) w (w.toObjects items).2 :=
    toObjects_builds items (Nat.le_refl _) fun _ _ _ _ => trivial
  exact h.grows (Nat.le_refl _)

theorem toEntries_builds_any (w : World) (entries : Bindings Value) :
    Builds w.heap.size (fun _ => True) w (w.toEntries entries).2 :=
  toEntries_builds (Nat.le_refl _) fun _ _ _ _ => trivial

/-- An array has its elements for a payload.  It is older than they are, so that it
    leaves them as they were converted. -/
theorem toObject_list_holds {w : World} {items : List Value} {os : List ObjectId}
    (hos : ((w.allocate .array).2.toObjects items).1 = os.map .object) :
    (w.toObject (.list items)).2.typeOf ⟨w.heap.size⟩ = .array ∧
      (w.toObject (.list items)).2.payload? ⟨w.heap.size⟩ = some (.list (os.map .object)) ∧
      ((w.allocate .array).2.toObjects items).2.KeepsFrom (w.heap.size + 1)
        (w.toObject (.list items)).2 := by
  have hlt : w.heap.size < (w.allocate .array).2.heap.size := w.size_lt_allocate .array
  have htype := w.allocate_type .array
  rw [← ((w.allocate .array).2.toObjects_grows items).object?_eq (o := ⟨w.heap.size⟩) hlt] at htype
  obtain ⟨htype', hpayload⟩ := setPayload_self htype (.list (os.map .object))
  rw [toObject_list, hos]
  refine ⟨htype', hpayload, fun {p} hp _ => ?_⟩
  refine object?_update_ne _ (fun e => ?_) _
  rw [e] at hp
  exact absurd hp (Nat.not_succ_le_self w.heap.size)

mutual

/-- **What a value becomes is its conversion**. -/
theorem toObject_isConversion {start : Nat} {w : World} (v : Value) (hstart : start ≤ w.heap.size) :
    (w.toObject v).2.IsConversion start (w.toObject v).1 v := by
  match v with
  | .null | .bool _ | .object _ => exact rfl
  | .int _ | .float _ | .complex _ | .text _ | .function _ | .dict _ | .foreign _ =>
    obtain ⟨htype, hpayload⟩ := setPayload_self (w.allocate_type _) _
    exact ⟨hstart, congrArg some htype.symm, hpayload⟩
  | .list items =>
    have hlt : w.heap.size + 1 ≤ (w.allocate .array).2.heap.size := w.size_lt_allocate .array
    obtain ⟨os, hos, hitems⟩ := toObjects_areConversions items hlt
    obtain ⟨htype, hpayload, hkeeps⟩ := toObject_list_holds hos
    rw [IsConversion]
    exact ⟨hstart, htype, os, hpayload, hitems.mono (Nat.le_succ_of_le hstart) hkeeps items⟩

/-- What the values of a list become are their conversions. -/
theorem toObjects_areConversions {start : Nat} {w : World} (items : List Value)
    (hstart : start ≤ w.heap.size) :
    ∃ os : List ObjectId, (w.toObjects items).1 = os.map Value.object ∧
      (w.toObjects items).2.AreConversions start os items := by
  match items with
  | [] => exact ⟨[], rfl, rfl⟩
  | v :: rest =>
    have hfirst : (w.toObject v).2.IsConversion start (w.toObject v).1 v :=
      toObject_isConversion v hstart
    have hgrows := w.toObject_grows v
    obtain ⟨os, hos, hrest⟩ :=
      toObjects_areConversions rest (Nat.le_trans hstart hgrows.size_le)
    refine ⟨(w.toObject v).1 :: os, ?_, ?_⟩
    · rw [toObjects, List.map_cons, ← hos]
    · -- What the rest adds leaves the first object as it is.
      rw [toObjects, AreConversions]
      exact ⟨_, os, rfl,
        hfirst.mono (Nat.le_refl _) (((w.toObject v).2.toObjects_grows rest).keepsFrom start) v,
        hrest⟩

end

/-- **Conversion of bindings**: each name keeps its place, and what it is bound
    to last is the conversion of what it was bound to last. -/
theorem toEntries_last? {start : Nat} {w : World} (entries : Bindings Value)
    (hstart : start ≤ w.heap.size) (name : String) :
    (Bindings.last? name entries = none ∧ Bindings.last? name (w.toEntries entries).1 = none) ∨
      ∃ v o, Bindings.last? name entries = some v ∧
        Bindings.last? name (w.toEntries entries).1 = some (.object o) ∧
        (w.toEntries entries).2.IsConversion start o v := by
  induction entries generalizing w with
  | nil => exact .inl ⟨rfl, rfl⟩
  | cons entry rest ih =>
    obtain ⟨key, v⟩ := entry
    have hfirst : (w.toObject v).2.IsConversion start (w.toObject v).1 v :=
      toObject_isConversion v hstart
    have hrest : (w.toObject v).2.Grows ((w.toObject v).2.toEntries rest).2 :=
      (toEntries_builds_any _ rest).grows (Nat.le_refl _)
    have hname : Bindings.last? name (w.toEntries ((key, v) :: rest)).1 =
        (Bindings.last? name ((w.toObject v).2.toEntries rest).1).or
          (if key = name then some (.object (w.toObject v).1) else none) := rfl
    -- The rest counts first, and this entry only if its name is not bound there.
    rcases ih (Nat.le_trans hstart (w.toObject_grows v).size_le) with ⟨hnone, hnone'⟩ | h
    · rw [hname, Bindings.last?, hnone, hnone', Option.none_or, Option.none_or]
      by_cases hkey : key = name
      · rw [if_pos hkey, if_pos hkey]
        exact .inr ⟨v, _, rfl, rfl, hfirst.mono (Nat.le_refl _) (hrest.keepsFrom start) v⟩
      · rw [if_neg hkey, if_neg hkey]
        exact .inl ⟨rfl, rfl⟩
    · obtain ⟨u, o, hu, ho, hconversion⟩ := h
      rw [hname, Bindings.last?, hu, ho, Option.some_or, Option.some_or]
      exact .inr ⟨u, o, rfl, rfl, hconversion⟩

end World

end DynamicObjects
