import DynamicObjects.Proofs.Struct.Protection

/-! # Who writes payloads

    The types of plain values (null, truth values, numbers, strings) have no handler
    or method that changes the payload of an object in place.  What remains are two
    ways to store one: the initializer, dispatched once more, and an attribute write,
    which takes the payload for a property like all others.

    Main results:
    - `TypeDescriptor.IsPlain`: what makes a type one of these
    - `Operation.payload?_of_endsIn_plain`: what an operation does to the payload of an
      object of such a type -/

namespace DynamicObjects

/-! ## Plain types -/

namespace TypeDescriptor

/-- A type is **plain** if only initializers and attribute writes store into its
    objects: both are the usual ones, there are neither elements to replace nor
    members, no handler is the host's, and no method is but one of texts. -/
structure IsPlain (T : TypeDescriptor) : Prop where
  init : ∃ how, T.slots .init = some (.construct how)
  setAttr : T.slots .setAttr = some (.setAttr .properties)
  setItem : T.slots .setItem = none
  shape : T.shape = none
  not_native : ∀ (s : Slot) (name : String), T.slots s ≠ some (.native name)
  methods : ∀ entry ∈ T.methods, ∃ method : TextMethod, entry.2 = .native (.text method)

theorem IsPlain.sealable {T : TypeDescriptor} (h : T.IsPlain) : T.Sealable :=
  sealable_of_texts h.not_native h.methods

theorem isPlain_null : null.IsPlain where
  init := ⟨_, rfl⟩
  setAttr := rfl
  setItem := rfl
  shape := rfl
  not_native slot _ hslot := by cases slot <;> cases hslot
  methods _ h := absurd h List.not_mem_nil

theorem isPlain_bool : bool.IsPlain where
  init := ⟨_, rfl⟩
  setAttr := rfl
  setItem := rfl
  shape := rfl
  not_native slot _ hslot := by cases slot <;> cases hslot
  methods _ h := absurd h List.not_mem_nil

theorem isPlain_string : string.IsPlain where
  init := ⟨_, rfl⟩
  setAttr := rfl
  setItem := rfl
  shape := rfl
  not_native slot _ hslot := by cases slot <;> cases hslot
  methods entry h := by
    have hmethods : string.methods = TextMethod.all.map fun m => (m.name, .native (.text m)) := rfl
    rw [hmethods] at h
    obtain ⟨method, -, rfl⟩ := List.mem_map.mp h
    exact ⟨method, rfl⟩

end TypeDescriptor

namespace World

/-- The payload of an object of a plain type can be sealed. -/
theorem fits_of_isPlain {w : World} {s : ObjectId} (hplain : (w.typeOf s).IsPlain)
    (halive : w.isAlive s = true) (hw : w.WellFormed) : w.Fits (only s payloadName) := by
  obtain ⟨x, hx⟩ := Option.isSome_iff_exists.mp halive
  refine hw.fits_of_sealable ?_ ?_
  · rintro o name ⟨rfl, -⟩
    exact index_lt_of_object?_eq_some hx
  · rintro o name ⟨rfl, -⟩
    exact hplain.sealable

end World

/-! ## Operations -/

namespace Operation

/-- An operation writes or erases a property of an object past the handlers of
    its type. -/
def Bypasses (o : ObjectId) (name : String) : Operation → Prop
  | setProperty p key _ | eraseProperty p key => p = o ∧ key = name
  | setAttr p key _ => p = o ∧ Host.markedProperty? key = some name
  | _ => False

/-- The value that an operation assigns to the payload of an object as an attribute. -/
def assigned? (s : ObjectId) : Operation → Option Value
  | dispatch o .setAttr [.text key, v] | setAttr o key v =>
    if o = s ∧ key = payloadName then some v else none
  | _ => none

section payload
variable {host : Host} {w w' : World} {s : ObjectId} {op : Operation}

/-- To set an attribute without a mark is to dispatch to its handler. -/
theorem run_setAttr {o : ObjectId} {key : String} {v : Value}
    (hkey : Host.markedProperty? key = none) :
    (setAttr o key v).run host = (dispatch o .setAttr [.text key, v]).run host := by
  show host.setAttr o key v = _
  unfold Host.setAttr
  rw [hkey]
  rfl

/-- The handler that sets an attribute needs a name and a value, and then stores
    the value as it is. -/
theorem payload?_of_endsIn_setAttr (hplain : (w.typeOf s).IsPlain) (halive : w.isAlive s = true)
    {args : List Value} (hkey : args.head? = some (.text payloadName))
    (hends : (dispatch s .setAttr args).EndsIn host w w') :
    w'.payload? s = ((dispatch s .setAttr args).assigned? s).or (w.payload? s) := by
  have hrun : (dispatch s .setAttr args).run host w =
      (do let _ ← AttributeStore.properties.setHandler s args : Run Unit) w := by
    simp only [run, Run.bind_apply, Host.dispatch_apply host hplain.setAttr]
    rfl
  rw [EndsIn, hrun] at hends
  -- Only with two arguments anything is written.
  rcases args with _ | ⟨key, _ | ⟨v, _ | ⟨u, rest⟩⟩⟩
  · cases hkey
  · obtain rfl : w' = w := by
      rcases hends with h | ⟨f, h⟩ <;> cases h
      rfl
    simp [assigned?]
  · obtain rfl := Option.some.inj hkey
    obtain rfl : w' = w.setProperty s payloadName v := by
      rcases hends with h | ⟨f, h⟩ <;> cases h
      rfl
    rw [World.payload?, World.property?_setProperty_self w halive]
    simp [assigned?]
  · obtain rfl : w' = w := by
      rcases hends with h | ⟨f, h⟩ <;> cases h
      rfl
    simp [assigned?]

/-- Member data is refused by what is no struct. -/
theorem eq_of_endsIn_assignMembers {o : ObjectId} {data : Value}
    (hshape : (w.typeOf o).shape = none) (hends : (assignMembers o data).EndsIn host w w') :
    w' = w := by
  have hraised : (assignMembers o data).run host w = .raised (.notStruct (w.typeName o)) w := by
    have hshapeOf : w.shapeOf o = .error (.notStruct (w.typeName o)) := by
      rw [World.shapeOf, hshape]
    simp only [run, Behaviour.assignMembers, Run.bind_apply, Run.read_apply, id_eq, hshapeOf,
      Run.lift_error]
  rw [EndsIn, hraised] at hends
  rcases hends with h | ⟨f, h⟩ <;> cases h
  rfl

/-- What writes the payload of a plain value: its initializer, its attributes, and
    member data, which it refuses. -/
theorem cases_of_writes (hplain : (w.typeOf s).IsPlain) (hspares : ¬ op.Bypasses s payloadName)
    (hwrites : op.Writes w s payloadName) :
    (∃ args, op = dispatch s .init args) ∨
      (∃ args, args.head? = some (.text payloadName) ∧ op = dispatch s .setAttr args) ∨
      (∃ v, op = setAttr s payloadName v) ∨ ∃ data, op = assignMembers s data := by
  -- Of the handlers that write at all, a plain type has no `setItem`.
  have hhandler : ∀ {slot : Slot} {h : Handler slot} {args : List Value},
      (w.typeOf s).slots slot = some h → h.Writes (w.typeOf s) args payloadName →
        slot = .init ∨ slot = .setAttr ∧ args.head? = some (.text payloadName) := by
    intro slot h args hslot hname
    cases h with
    | construct how => exact .inl rfl
    | setItem => cases hplain.setItem.symm.trans hslot
    | setAttr store =>
      obtain rfl : store = .properties := by
        cases hslot.symm.trans hplain.setAttr
        rfl
      obtain ⟨key, hkey, hname⟩ := hname
      obtain rfl : payloadName = key := hname
      exact .inr ⟨rfl, hkey⟩
    | _ => exact hname.elim
  cases op with
  | dispatch o slot args =>
    obtain ⟨rfl, h, hslot, hname⟩ := hwrites
    rcases hhandler hslot hname with rfl | ⟨rfl, hkey⟩
    · exact .inl ⟨args, rfl⟩
    · exact .inr (.inl ⟨args, hkey, rfl⟩)
  | setAttr o key v =>
    obtain ⟨rfl, hmarked | ⟨-, h, hslot, hname⟩⟩ := hwrites
    · exact absurd ⟨rfl, hmarked⟩ hspares
    · rcases hhandler hslot hname with hinit | ⟨-, hkey⟩
      · cases hinit
      · obtain rfl := Value.text.inj (Option.some.inj hkey)
        exact .inr (.inr (.inl ⟨v, rfl⟩))
  | setProperty o name v => exact absurd hwrites hspares
  | eraseProperty o name => exact absurd hwrites hspares
  | assignMembers o data =>
    obtain rfl : o = s := hwrites
    exact .inr (.inr (.inr ⟨data, rfl⟩))
  | _ => exact hwrites.elim

/-- An operation that assigns a payload writes it. -/
theorem assigned?_eq_none (hplain : (w.typeOf s).IsPlain)
    (hwrites : ¬ op.Writes w s payloadName) : op.assigned? s = none := by
  unfold assigned?
  split
  · next o key v =>
    refine if_neg fun ⟨ho, hkey⟩ => hwrites ?_
    subst ho hkey
    exact ⟨rfl, _, hplain.setAttr, _, rfl, rfl⟩
  · next o key v =>
    refine if_neg fun ⟨ho, hkey⟩ => hwrites ?_
    subst ho hkey
    exact ⟨rfl, .inr ⟨by decide, _, hplain.setAttr, _, rfl, rfl⟩⟩
  · rfl

/-- **Step**: an operation that does not bypass the handlers leaves the payload of a
    plain value as it is or as it assigns it, unless it runs the initializer. -/
theorem payload?_of_endsIn_plain (hhost : host.Respects (World.only s payloadName))
    (hw : w.WellFormed) (hplain : (w.typeOf s).IsPlain) (halive : w.isAlive s = true)
    (hspares : ¬ op.Bypasses s payloadName) (hvalues : w.SupportsAll op.values)
    (hends : op.EndsIn host w w') :
    (∃ args, op = dispatch s .init args) ∨
      w'.payload? s = (op.assigned? s).or (w.payload? s) := by
  by_cases hwrites : op.Writes w s payloadName
  · rcases cases_of_writes hplain hspares hwrites with
      hinit | ⟨args, hkey, rfl⟩ | ⟨v, rfl⟩ | ⟨data, rfl⟩
    · exact .inl hinit
    · exact .inr (payload?_of_endsIn_setAttr hplain halive hkey hends)
    · rw [EndsIn, run_setAttr (by decide)] at hends
      exact .inr (payload?_of_endsIn_setAttr hplain halive rfl hends)
    · rw [eq_of_endsIn_assignMembers hplain.shape hends]
      exact .inr rfl
  · -- Everything else keeps the payload as a sealed property.
    have hsealed : ∀ o name, op.Writes w o name → ¬ World.only s payloadName o name := by
      rintro o name hname ⟨rfl, rfl⟩
      exact hwrites hname
    have hfits := World.fits_of_isPlain hplain halive hw
    have hsafe := safe_of_endsIn hhost hfits hvalues hsealed hends
    rw [assigned?_eq_none hplain hwrites, Option.none_or]
    exact .inr (hsafe.property?_eq ⟨rfl, rfl⟩)

end payload

end Operation

end DynamicObjects
