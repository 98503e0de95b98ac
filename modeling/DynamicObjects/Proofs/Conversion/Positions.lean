import DynamicObjects.Proofs.Heap.Converted

/-! # Positions in converted lists

    A position of a value is a path of indices into lists within lists.  The
    conversion of the value is found along the same path, through the payloads of
    the arrays; there `World.objectAt?` gives the object that stands for what the
    value holds.

    Conversion works from left to right and puts an array in front of its
    elements.  So the new objects are in the order of the positions, and no two
    positions share one of them.

    Main results:
    - `World.exists_objectAt?`: every position is converted
    - `World.toObject_isInOrder`: new objects are in the order of the positions
    - `World.IsInOrder.position_unique`: each of them stands at one position only -/

namespace DynamicObjects

/-! ## Positions -/

/-- What a value holds at a **position**: an index into a list, one into the list
    that is found there, and so on. -/
def Value.at? : Value → List Nat → Option Value
  | v, [] => some v
  | .list items, i :: path => (items[i]?).bind fun v => v.at? path
  | _, _ :: _ => none

namespace World

/-- The object at a position: its path goes through elements of payloads. -/
def objectAt? (w : World) (o : ObjectId) : List Nat → Option ObjectId
  | [] => some o
  | i :: path =>
    match w.payload? o with
    | some (.list items) =>
      match items[i]? with
      | some (.object p) => w.objectAt? p path
      | _ => none
    | _ => none

section positions
variable {start : Nat} {w : World} {o : ObjectId}

/-- The first step of a path goes to an element. -/
theorem objectAt?_cons {os : List ObjectId} (h : w.payload? o = some (.list (os.map .object)))
    (i : Nat) (path : List Nat) :
    w.objectAt? o (i :: path) = (os[i]?).bind fun p => w.objectAt? p path := by
  simp only [objectAt?, h, List.getElem?_map]
  cases os[i]? <;> rfl

/-- What stands at a place of a converted list is the conversion of the element. -/
theorem AreConversions.getElem? {os : List ObjectId} {items : List Value}
    (h : w.AreConversions start os items) {i : Nat} {v : Value} (hv : items[i]? = some v) :
    ∃ p, os[i]? = some p ∧ w.IsConversion start p v := by
  induction items generalizing os i with
  | nil => cases hv
  | cons first rest ih =>
    rw [AreConversions] at h
    obtain ⟨p, os, rfl, hfirst, hrest⟩ := h
    cases i with
    | zero =>
      obtain rfl := Option.some.inj hv
      exact ⟨p, rfl, hfirst⟩
    | succ i => exact ih hrest hv

/-- **Every position** of a value is converted. -/
theorem exists_objectAt? {v u : Value} {path : List Nat} (h : w.IsConversion start o v)
    (hu : v.at? path = some u) :
    ∃ p, w.objectAt? o path = some p ∧ w.IsConversion start p u := by
  induction path generalizing o v with
  | nil =>
    obtain rfl := Option.some.inj hu
    exact ⟨o, rfl, h⟩
  | cons i path ih =>
    cases v with
    | list items =>
      obtain ⟨first, hfirst, hu⟩ := Option.bind_eq_some_iff.mp hu
      rw [IsConversion] at h
      obtain ⟨-, -, os, hpayload, hos⟩ := h
      obtain ⟨q, hq, hconversion⟩ := hos.getElem? hfirst
      rw [objectAt?_cons hpayload, hq]
      exact ih hconversion hu
    | _ => cases hu

end positions

/-! ## The order of new objects -/

mutual

/-- The new objects of a converted value lie **in order** from one place up to
    another: an array in front of its elements, and each element in front of the
    next one. -/
def IsInOrder (w : World) (lo hi : Nat) (o : ObjectId) : Value → Prop
  | .list items =>
    lo ≤ o.index ∧ o.index < hi ∧
      ∃ os : List ObjectId, w.payload? o = some (.list (os.map .object)) ∧
        AreInOrder w (o.index + 1) hi os items
  | v => (typeFor? v).isSome = true → lo ≤ o.index ∧ o.index < hi

/-- The new objects of converted values lie in order. -/
def AreInOrder (w : World) : Nat → Nat → List ObjectId → List Value → Prop
  | _, _, os, [] => os = []
  | lo, hi, os, v :: rest =>
    ∃ o os' mid, os = o :: os' ∧ lo ≤ mid ∧ mid ≤ hi ∧ IsInOrder w lo mid o v ∧
      AreInOrder w mid hi os' rest

end

mutual

/-- The order stays as long as the new objects are left alone. -/
theorem IsInOrder.mono {w w' : World} {lo hi : Nat} (h : w.KeepsFrom lo w') {o : ObjectId}
    (v : Value) (ho : w.IsInOrder lo hi o v) : w'.IsInOrder lo hi o v := by
  match v with
  | .null | .bool _ | .object _ | .int _ | .float _ | .complex _ | .text _ | .function _
  | .dict _ | .foreign _ => exact ho
  | .list items =>
    rw [IsInOrder] at ho
    obtain ⟨hlo, hhi, os, hpayload, hos⟩ := ho
    have hbehind : w.KeepsFrom (o.index + 1) w' := fun hp => h (by omega)
    rw [IsInOrder]
    exact ⟨hlo, hhi, os, (h.payload?_eq hlo hpayload).2, AreInOrder.mono hbehind items hos⟩

theorem AreInOrder.mono {w w' : World} {lo hi : Nat} (h : w.KeepsFrom lo w')
    {os : List ObjectId} (items : List Value) (hos : w.AreInOrder lo hi os items) :
    w'.AreInOrder lo hi os items := by
  match items with
  | [] => exact hos
  | v :: rest =>
    rw [AreInOrder] at hos
    obtain ⟨o, os', mid, rfl, hlo, hhi, hfirst, hrest⟩ := hos
    have hbehind : w.KeepsFrom mid w' := fun hp => h (by omega)
    rw [AreInOrder]
    exact ⟨o, os', mid, rfl, hlo, hhi, hfirst.mono h v, AreInOrder.mono hbehind rest hrest⟩

end

/-- There may be more room behind the new objects. -/
theorem AreInOrder.widen {w : World} {lo hi hi' : Nat} (hle : hi ≤ hi') {os : List ObjectId}
    {items : List Value} (h : w.AreInOrder lo hi os items) : w.AreInOrder lo hi' os items := by
  induction items generalizing lo os with
  | nil => exact h
  | cons v rest ih =>
    rw [AreInOrder] at h ⊢
    obtain ⟨o, os', mid, rfl, hlo, hhi, hfirst, hrest⟩ := h
    exact ⟨o, os', mid, rfl, hlo, Nat.le_trans hhi hle, hfirst, ih hrest⟩

theorem IsInOrder.widen {w : World} {lo lo' hi hi' : Nat} (hlo : lo' ≤ lo) (hhi : hi ≤ hi')
    {o : ObjectId} {v : Value} (h : w.IsInOrder lo hi o v) : w.IsInOrder lo' hi' o v := by
  cases v with
  | list items =>
    rw [IsInOrder] at h ⊢
    obtain ⟨ho, ho', os, hpayload, hos⟩ := h
    exact ⟨by omega, by omega, os, hpayload, hos.widen hhi⟩
  | _ =>
    intro hnew
    obtain ⟨ho, ho'⟩ := h hnew
    exact ⟨by omega, by omega⟩

/-- There may be more room in front of the new objects. -/
theorem AreInOrder.lower {w : World} {lo lo' hi : Nat} (hle : lo' ≤ lo) {os : List ObjectId}
    {items : List Value} (h : w.AreInOrder lo hi os items) : w.AreInOrder lo' hi os items := by
  cases items with
  | nil => exact h
  | cons v rest =>
    rw [AreInOrder] at h ⊢
    obtain ⟨o, os', mid, rfl, hlo, hhi, hfirst, hrest⟩ := h
    exact ⟨o, os', mid, rfl, Nat.le_trans hle hlo, hhi, hfirst.widen hle (Nat.le_refl mid), hrest⟩

theorem size_lt_box (w : World) (T : TypeDescriptor) (v : Value) :
    w.heap.size < (w.box T v).2.heap.size := by
  have hsize := size_setProperty (w.allocate T).2 ⟨w.heap.size⟩ payloadName v
  exact Nat.lt_of_lt_of_eq (w.size_lt_allocate T) hsize.symm

theorem size_toObject_list (w : World) (items : List Value) :
    (w.toObject (.list items)).2.heap.size =
      ((w.allocate .array).2.toObjects items).2.heap.size := by
  rw [toObject_list, setPayload, size_setProperty]

mutual

/-- **Conversion keeps the order** of what it converts. -/
theorem toObject_isInOrder (w : World) (v : Value) :
    (w.toObject v).2.IsInOrder w.heap.size (w.toObject v).2.heap.size (w.toObject v).1 v := by
  match v with
  | .null | .bool _ | .object _ =>
    intro hnew
    cases hnew
  | .int _ | .float _ | .complex _ | .text _ | .function _ | .dict _ | .foreign _ =>
    intro _
    exact ⟨Nat.le_refl w.heap.size, w.size_lt_box _ _⟩
  | .list items =>
    have hlt : w.heap.size < (w.allocate .array).2.heap.size := w.size_lt_allocate .array
    have hle := ((w.allocate .array).2.toObjects_grows items).size_le
    obtain ⟨os, hos, hitems⟩ := toObjects_areInOrder (w.allocate .array).2 items
    obtain ⟨-, hpayload, hkeeps⟩ := toObject_list_holds hos
    rw [IsInOrder, size_toObject_list]
    refine ⟨Nat.le_refl w.heap.size, Nat.lt_of_lt_of_le hlt hle, os, hpayload, ?_⟩
    exact (hitems.lower hlt).mono hkeeps items

/-- The conversion of the values of a list keeps their order. -/
theorem toObjects_areInOrder (w : World) (items : List Value) :
    ∃ os : List ObjectId, (w.toObjects items).1 = os.map .object ∧
      (w.toObjects items).2.AreInOrder w.heap.size (w.toObjects items).2.heap.size os items := by
  match items with
  | [] => exact ⟨[], rfl, rfl⟩
  | v :: rest =>
    have hfirst := toObject_isInOrder w v
    obtain ⟨os, hos, hrest⟩ := toObjects_areInOrder (w.toObject v).2 rest
    have hgrows := (w.toObject v).2.toObjects_grows rest
    refine ⟨(w.toObject v).1 :: os, ?_, ?_⟩
    · rw [toObjects, List.map_cons, ← hos]
    · rw [toObjects, AreInOrder]
      exact ⟨_, os, (w.toObject v).2.heap.size, rfl, (w.toObject_grows v).size_le, hgrows.size_le,
        hfirst.mono (hgrows.keepsFrom _) v, hrest⟩

end

/-! ## One position for each new object -/

section positions
variable {w : World} {lo hi : Nat}

theorem AreInOrder.getElem? {os : List ObjectId} {items : List Value}
    (h : w.AreInOrder lo hi os items) {i : Nat} {v : Value} (hv : items[i]? = some v) :
    ∃ o, os[i]? = some o ∧ w.IsInOrder lo hi o v := by
  induction items generalizing lo os i with
  | nil => cases hv
  | cons first rest ih =>
    rw [AreInOrder] at h
    obtain ⟨o, os, mid, rfl, hlo, hhi, hfirst, hrest⟩ := h
    cases i with
    | zero =>
      obtain rfl := Option.some.inj hv
      exact ⟨o, rfl, hfirst.widen (Nat.le_refl lo) hhi⟩
    | succ i =>
      obtain ⟨p, hp, horder⟩ := ih hrest hv
      exact ⟨p, hp, horder.widen hlo (Nat.le_refl hi)⟩

/-- Between the new objects of two elements, there is a place that separates them. -/
theorem AreInOrder.separated {os : List ObjectId} {items : List Value}
    (h : w.AreInOrder lo hi os items) {i j : Nat} (hlt : i < j) {v u : Value}
    (hv : items[i]? = some v) (hu : items[j]? = some u) :
    ∃ o p mid, os[i]? = some o ∧ os[j]? = some p ∧ w.IsInOrder lo mid o v ∧
      w.IsInOrder mid hi p u := by
  induction items generalizing lo os i j with
  | nil => cases hv
  | cons first rest ih =>
    rw [AreInOrder] at h
    obtain ⟨o, os, mid, rfl, hlo, hhi, hfirst, hrest⟩ := h
    obtain ⟨j, rfl⟩ : ∃ k, j = k + 1 := ⟨j - 1, by omega⟩
    cases i with
    | zero =>
      obtain rfl := Option.some.inj hv
      obtain ⟨p, hp, horder⟩ := hrest.getElem? hu
      exact ⟨o, p, mid, rfl, hp, hfirst, horder⟩
    | succ i =>
      obtain ⟨p, q, mid', hp, hq, hfirst', hsecond⟩ := ih hrest (Nat.lt_of_succ_lt_succ hlt) hv hu
      exact ⟨p, q, mid', hp, hq, hfirst'.widen hlo (Nat.le_refl mid'), hsecond⟩

/-- The new object at a position lies where the new objects are. -/
theorem IsInOrder.bounds {o p : ObjectId} {v u : Value} {path : List Nat}
    (h : w.IsInOrder lo hi o v) (hu : v.at? path = some u) (hnew : (typeFor? u).isSome = true)
    (hp : w.objectAt? o path = some p) : lo ≤ p.index ∧ p.index < hi := by
  induction path generalizing lo o v with
  | nil =>
    obtain rfl := Option.some.inj hu
    obtain rfl := Option.some.inj hp
    cases v with
    | list items =>
      rw [IsInOrder] at h
      exact ⟨h.1, h.2.1⟩
    | _ => exact h hnew
  | cons i path ih =>
    cases v with
    | list items =>
      obtain ⟨first, hfirst, hu⟩ := Option.bind_eq_some_iff.mp hu
      rw [IsInOrder] at h
      obtain ⟨hlo, -, os, hpayload, hos⟩ := h
      obtain ⟨q, hq, horder⟩ := hos.getElem? hfirst
      rw [objectAt?_cons hpayload, hq] at hp
      -- The elements lie behind their array, and end where it ends.
      obtain ⟨hbehind, hhi⟩ := ih horder hu hp
      exact ⟨by omega, hhi⟩
    | _ => cases hu

/-- A new object that stands for something inside a list is newer than the array. -/
theorem IsInOrder.lt_of_cons {o p : ObjectId} {items : List Value} {u : Value} {i : Nat}
    {path : List Nat} (h : w.IsInOrder lo hi o (.list items))
    (hu : (Value.list items).at? (i :: path) = some u) (hnew : (typeFor? u).isSome = true)
    (hp : w.objectAt? o (i :: path) = some p) : o.index < p.index := by
  obtain ⟨first, hfirst, hu⟩ := Option.bind_eq_some_iff.mp hu
  rw [IsInOrder] at h
  obtain ⟨-, -, os, hpayload, hos⟩ := h
  obtain ⟨q, hq, horder⟩ := hos.getElem? hfirst
  rw [objectAt?_cons hpayload, hq] at hp
  exact (horder.bounds hu hnew hp).1

/-- New objects at two places of a list, and below them, are not the same. -/
theorem AreInOrder.ne_of_lt {o p q : ObjectId} {os : List ObjectId} {items : List Value}
    (hpayload : w.payload? o = some (.list (os.map .object))) (h : w.AreInOrder lo hi os items)
    {i j : Nat} (hlt : i < j) {path path' : List Nat} {v u : Value}
    (hv : (Value.list items).at? (i :: path) = some v) (hvnew : (typeFor? v).isSome = true)
    (hu : (Value.list items).at? (j :: path') = some u) (hunew : (typeFor? u).isSome = true)
    (hp : w.objectAt? o (i :: path) = some p) (hq : w.objectAt? o (j :: path') = some q) :
    p ≠ q := by
  obtain ⟨first, hfirst, hv⟩ := Option.bind_eq_some_iff.mp hv
  obtain ⟨second, hsecond, hu⟩ := Option.bind_eq_some_iff.mp hu
  obtain ⟨o₁, o₂, mid, ho₁, ho₂, horder₁, horder₂⟩ := h.separated hlt hfirst hsecond
  rw [objectAt?_cons hpayload, ho₁] at hp
  rw [objectAt?_cons hpayload, ho₂] at hq
  have hbefore := (horder₁.bounds hv hvnew hp).2
  have hbehind := (horder₂.bounds hu hunew hq).1
  intro e
  rw [e] at hbefore
  omega

/-- **New objects stand at one position only**: two different positions hold
    different ones. -/
theorem IsInOrder.position_unique {o p q : ObjectId} {v u u' : Value} {path path' : List Nat}
    (h : w.IsInOrder lo hi o v) (hne : path ≠ path')
    (hu : v.at? path = some u) (hnew : (typeFor? u).isSome = true)
    (hu' : v.at? path' = some u') (hnew' : (typeFor? u').isSome = true)
    (hp : w.objectAt? o path = some p) (hq : w.objectAt? o path' = some q) : p ≠ q := by
  induction path generalizing lo o v path' with
  | nil =>
    obtain rfl := Option.some.inj hp
    cases path' with
    | nil => exact absurd rfl hne
    | cons j path' =>
      cases v with
      | list items =>
        intro e
        have hlt := h.lt_of_cons hu' hnew' hq
        rw [e] at hlt
        exact Nat.lt_irrefl _ hlt
      | _ => cases hu'
  | cons i path ih =>
    cases v with
    | list items =>
      cases path' with
      | nil =>
        obtain rfl := Option.some.inj hq
        intro e
        have hlt := h.lt_of_cons hu hnew hp
        rw [e] at hlt
        exact Nat.lt_irrefl _ hlt
      | cons j path' =>
        have horder := h
        rw [IsInOrder] at horder
        obtain ⟨-, -, os, hpayload, hos⟩ := horder
        rcases Nat.lt_trichotomy i j with hlt | rfl | hlt
        · exact hos.ne_of_lt hpayload hlt hu hnew hu' hnew' hp hq
        · -- The paths part further down.
          obtain ⟨first, hfirst, hu⟩ := Option.bind_eq_some_iff.mp hu
          obtain ⟨first', hfirst', hu'⟩ := Option.bind_eq_some_iff.mp hu'
          obtain rfl := Option.some.inj (hfirst.symm.trans hfirst')
          obtain ⟨r, hr, horder⟩ := hos.getElem? hfirst
          rw [objectAt?_cons hpayload, hr] at hp hq
          exact ih horder (fun e => hne (congrArg (i :: ·) e)) hu hu' hp hq
        · exact (hos.ne_of_lt hpayload hlt hu' hnew' hu hnew hq hp).symm
    | _ => cases hu

end positions

end World

end DynamicObjects
