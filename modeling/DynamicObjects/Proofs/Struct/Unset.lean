import DynamicObjects.Proofs.Heap.Lifetime
import DynamicObjects.Proofs.Struct.Members

/-! # Members that have never been given a value

    A struct object keeps its members among its properties, next to the name of
    the struct, which the initializer of the prototype puts there.  A clone
    takes all of them over.  So a member of that name is never without a value;
    any other member that nothing has been given for reads as null.

    The argument:
    1. A record is kept, operation by operation, of the names that a struct object
       and all the objects it was cloned from have not been given a value for
       (`Unset.after`).
    2. What such an object holds under such a name is nothing, or the name of a
       struct (`World.Vacant`).
    3. An operation that does not write the member leaves it as it is; the four
       that may write it (`Operation.struct_cases_of_writes`) and the three that make
       struct objects are taken one by one.

    Main results:
    - `MemberRun.vacant`: what a whole run leaves of such a member
    - `unset_member_after_run`: what attributes give for it -/

namespace DynamicObjects

/-- The types that declarations make. -/
def TypeDescriptor.IsStruct (T : TypeDescriptor) : Prop :=
  ∃ shape n, T = .struct shape (.declared n)

/-! ## What operations give -/

/-- Member data binds a name. -/
def World.BindsMember (w : World) (o : ObjectId) (data : Value) (m : String) : Prop :=
  ∃ shape entries, (w.typeOf o).shape = some shape ∧
    Behaviour.DataBinds w shape data entries ∧ m ∈ Bindings.names entries

namespace Operation

/-- An operation writes **directly** if it passes the handlers of the type by. -/
def IsDirect : Operation → Prop
  | setProperty _ _ _ | eraseProperty _ _ => True
  | setAttr _ key _ => (Host.markedProperty? key).isSome = true
  | _ => False

/-- An operation **makes** a struct object, which is the first one that it adds. -/
def Makes (w : World) (o : ObjectId) : Operation → Prop
  | makeStruct _ _ _ => o = ⟨w.heap.size⟩
  | construct T _ => o = ⟨w.heap.size⟩ ∧ T.IsStruct
  | newStruct prototype _ =>
    o = ⟨w.heap.size⟩ ∧ ∃ q, prototype = .object q ∧ (w.typeOf q).IsStruct
  | _ => False

/-- An operation **clones** one object into another one, a new one or, by a call of
    its initializer, an old one. -/
def Clones (w : World) (q o : ObjectId) : Operation → Prop
  | construct _ args => o = ⟨w.heap.size⟩ ∧ args = [.object q]
  | newStruct prototype _ => o = ⟨w.heap.size⟩ ∧ prototype = .object q
  | dispatch this .init args => this = o ∧ args = [.object q]
  | _ => False

/-- An operation **gives** a member a value. -/
def Gives (w : World) (o : ObjectId) (m : String) : Operation → Prop
  | setAttr this key _ => this = o ∧ key = m
  | dispatch this .setAttr args => this = o ∧ args.head? = some (.text m)
  | assignMembers this data => this = o ∧ w.BindsMember o data m
  | newStruct prototype data =>
    o = ⟨w.heap.size⟩ ∧ ∃ q v, prototype = .object q ∧ data = some v ∧
      (w.cloned (w.typeOf q) q).BindsMember o ((w.cloned (w.typeOf q) q).unwrap v) m
  | _ => False

end Operation

/-! ## Runs -/

/-- The names that neither an object nor any object it was cloned from has been
    given a value for. -/
def Unset := ObjectId → String → Prop

namespace Unset

/-- There are no struct objects yet. -/
def nowhere : Unset := fun _ _ => False

/-- The record after an operation. -/
def after (u : Unset) (w : World) (op : Operation) : Unset := fun o m =>
  (op.Makes w o ∨ u o m) ∧ ¬ op.Gives w o m ∧ ∀ q, op.Clones w q o → u q m

end Unset

/-- A **run** without direct writes, and the record of it.  An operation that fails
    gives nothing. -/
inductive MemberRun (host : Host) : Unset → World → Prop where
  | start : MemberRun host .nowhere .initial
  | done {u : Unset} {w w' : World} (h : MemberRun host u w) (op : Operation)
      (hdirect : ¬ op.IsDirect) (hvalues : w.SupportsAll op.values)
      (hdone : op.run host w = .done () w') : MemberRun host (u.after w op) w'
  | refused {u : Unset} {w w' : World} {f : Fault} (h : MemberRun host u w) (op : Operation)
      (hdirect : ¬ op.IsDirect) (hvalues : w.SupportsAll op.values)
      (hraised : op.run host w = .raised f w') : MemberRun host u w'
  | collect {u : Unset} {w : World} (h : MemberRun host u w) (roots : List ObjectId) :
      MemberRun host u (w.collect roots)

/-! ## What is left of such a member -/

/-- What is **kept** under a name that nothing has been given for: the name of a
    struct where that is kept, and nothing elsewhere. -/
def KeptUnset (m : String) (held : Option Value) : Prop :=
  if m = declaredName then ∃ text, held = some (.text text) else held = none

/-- A struct object **lacks** a value of its own under a name, unless it has been
    released. -/
structure World.Vacant (w : World) (o : ObjectId) (m : String) : Prop where
  lt : o.index < w.heap.size
  isStruct : w.isAlive o = true → (w.typeOf o).IsStruct
  kept : w.isAlive o = true → KeptUnset m (w.property? o m)

namespace World

section vacant
variable {w w' : World} {o : ObjectId} {m : String}

theorem isAlive_of_isStruct (h : (w.typeOf o).IsStruct) : w.isAlive o = true := by
  obtain ⟨shape, n, hstruct⟩ := h
  have hshape : (w.typeOf o).shape = some shape := by rw [hstruct]; rfl
  obtain ⟨x, hx⟩ := Behaviour.object?_of_shape hshape
  rw [isAlive, hx]
  rfl

/-- Whatever leaves the member alone. -/
theorem Vacant.later (h : w.Vacant o m) (hlater : w.Later w')
    (hproperty : w.isAlive o = true → w'.property? o m = w.property? o m) : w'.Vacant o m where
  lt := Nat.lt_of_lt_of_le h.lt hlater.size_le
  isStruct halive := by
    rw [hlater.isAlive_eq h.lt] at halive
    rw [hlater.typeOf_eq h.lt]
    exact h.isStruct halive
  kept halive := by
    rw [hlater.isAlive_eq h.lt] at halive
    rw [hproperty halive]
    exact h.kept halive

theorem Vacant.extends (h : w.Vacant o m) (hlater : w.Later w')
    (hobject : w'.object? o = w.object? o) : w'.Vacant o m :=
  h.later hlater fun _ => by rw [property?, property?, object, object, hobject]

theorem Vacant.collect (h : w.Vacant o m) (roots : List ObjectId) :
    (w.collect roots).Vacant o m where
  lt := by
    rw [size_collect]
    exact h.lt
  isStruct halive := by
    rw [typeOf_collect halive]
    exact h.isStruct (isAlive_collect_iff.mp halive).1
  kept halive := by
    rw [property?_collect halive]
    exact h.kept (isAlive_collect_iff.mp halive).1

/-- An object of a struct type, new or old. -/
theorem Vacant.of_isStruct (hstruct : (w.typeOf o).IsStruct)
    (hkept : KeptUnset m (w.property? o m)) : w.Vacant o m where
  lt := by
    obtain ⟨x, hx⟩ := Option.isSome_iff_exists.mp (isAlive_of_isStruct hstruct)
    exact index_lt_of_object?_eq_some hx
  isStruct _ := hstruct
  kept _ := hkept

end vacant

end World

/-! ## What an initializer hands over -/

section handed
variable {w : World} {s : ObjectId} {args : List Value} {entries : Bindings Value} {m : String}

/-- An initializer hands over no more than what is kept anyway: its own entry is
    the name of a struct, and those of another object are the object's. -/
theorem keptUnset_handed (hw : w.WellFormed) (hstruct : (w.typeOf s).IsStruct)
    (hhanded : w.handed? s args = some entries)
    (hclones : ∀ q, args = [.object q] → w.Vacant q m) {before : Option Value}
    (hbefore : before = none ∨ KeptUnset m before) :
    KeptUnset m ((Bindings.last? m entries).or before) := by
  have hnames := Behaviour.nodup_of_handed? hw hhanded
  rw [Bindings.last?_eq_get? hnames]
  have hstay : m ≠ declaredName → before = none := by
    intro hm
    rcases hbefore with hnone | hkept
    · exact hnone
    · rwa [KeptUnset, if_neg hm] at hkept
  unfold World.handed? at hhanded
  split at hhanded
  · -- The name of the struct.
    obtain ⟨shape, -, rfl⟩ := Option.map_eq_some_iff.mp hhanded
    unfold KeptUnset
    by_cases hm : m = declaredName
    · rw [if_pos hm, hm]
      exact ⟨shape.name, rfl⟩
    · rw [if_neg hm, hstay hm]
      simp [Bindings.get?, Ne.symm hm]
  · next q =>
    split at hhanded
    · next hinstance =>
      obtain rfl := Option.some.inj hhanded
      -- What has been released is of no declared type.
      have halive : w.isAlive q = true := by
        obtain ⟨shape, n, hstruct⟩ := hstruct
        have hident : (w.typeOf q).ident = .declared n := by
          rw [World.isInstanceOf, hstruct] at hinstance
          exact of_decide_eq_true hinstance
        rw [World.isAlive, Option.isSome_iff_ne_none]
        intro hnone
        rw [World.typeOf, World.object, hnone] at hident
        cases hident
      have hkept := (hclones q rfl).kept halive
      have hget : Bindings.get? m (w.object q).properties = w.property? q m := rfl
      rw [hget]
      unfold KeptUnset at hkept ⊢
      by_cases hm : m = declaredName
      · rw [if_pos hm] at hkept ⊢
        obtain ⟨text, htext⟩ := hkept
        exact ⟨text, by rw [htext, Option.some_or]⟩
      · rw [if_neg hm] at hkept ⊢
        rw [hkept, hstay hm, Option.none_or]
    · cases hhanded
  · cases hhanded

end handed

/-! ## Operations on the object itself -/

namespace Operation

section writes
variable {host : Host} {w w' : World} {o : ObjectId} {m : String} {op : Operation}
  {shape : StructShape} {ident : TypeId}

/-- Of what is not written directly, four operations may write a member. -/
theorem struct_cases_of_writes (hstruct : w.typeOf o = .struct shape ident)
    (hdirect : ¬ op.IsDirect) (hwrites : op.Writes w o m) :
    (∃ args, op = dispatch o .init args) ∨
      (∃ args, op = dispatch o .setAttr args ∧ args.head? = some (.text m)) ∨
      (∃ v, op = setAttr o m v ∧ Host.markedProperty? m = none) ∨
      ∃ data, op = assignMembers o data := by
  -- Of the handlers that write at all, a struct has no `setItem`.
  have hmember : ∀ {slot : Slot} {h : Handler slot} {args : List Value},
      (w.typeOf o).slots slot = some h → h.Writes (w.typeOf o) args m →
        slot = .init ∨ slot = .setAttr ∧ args.head? = some (.text m) := by
    intro slot h args hslot hname
    rw [hstruct] at hslot hname
    cases h with
    | construct how => exact .inl rfl
    | setItem => cases hslot
    | setAttr store =>
      obtain rfl : AttributeStore.structMembers = store := by
        cases hslot
        rfl
      obtain ⟨key, hkey, rfl, -⟩ := hname
      exact .inr ⟨rfl, hkey⟩
    | _ => exact hname.elim
  cases op with
  | dispatch this slot args =>
    obtain ⟨rfl, h, hslot, hname⟩ := hwrites
    rcases hmember hslot hname with rfl | ⟨rfl, hkey⟩
    · exact .inl ⟨args, rfl⟩
    · exact .inr (.inl ⟨args, rfl, hkey⟩)
  | setAttr this key v =>
    obtain ⟨rfl, hmarked | ⟨hunmarked, h, hslot, hname⟩⟩ := hwrites
    · exact absurd (Option.isSome_iff_exists.mpr ⟨m, hmarked⟩) hdirect
    · rcases hmember hslot hname with heq | ⟨-, hkey⟩
      · cases heq
      · obtain rfl : key = m := by simpa using hkey
        exact .inr (.inr (.inl ⟨v, rfl, hunmarked⟩))
  | setProperty this name v => exact absurd trivial hdirect
  | eraseProperty this name => exact absurd trivial hdirect
  | assignMembers this data =>
    obtain rfl : this = o := hwrites
    exact .inr (.inr (.inr ⟨data, rfl⟩))
  | _ => exact hwrites.elim

/-- A write that a struct refuses changes nothing. -/
theorem eq_of_set_raised (hstruct : w.typeOf o = .struct shape ident) {v : Value} {f : Fault}
    (hraised : AttributeStore.set o m v .structMembers w = .raised f w') : w' = w := by
  have hshape : (w.typeOf o).shape = some shape := by rw [hstruct]; rfl
  obtain ⟨x, hx⟩ := Behaviour.object?_of_shape hshape
  have halive : w.isAlive o = true := Option.isSome_iff_exists.mpr ⟨x, hx⟩
  by_cases haccepts : AttributeStore.structMembers.Accepts w o m
  · rw [AttributeStore.set_of_accepts halive haccepts] at hraised
    cases hraised
  · obtain ⟨f', w₁, hrefused, -, hsame⟩ := AttributeStore.set_of_not_accepts halive haccepts v
    rw [hrefused] at hraised
    cases hraised
    exact hsame rfl

/-- The handler checks its arguments first, and changes nothing either if it fails. -/
theorem eq_of_setHandler_raised (hstruct : w.typeOf o = .struct shape ident) {args : List Value}
    {f : Fault} (hkey : args.head? = some (.text m))
    (hraised : AttributeStore.setHandler .structMembers o args w = .raised f w') : w' = w := by
  obtain ⟨rest, rfl⟩ : ∃ rest, args = .text m :: rest := by
    cases args with
    | nil => cases hkey
    | cons first rest => exact ⟨rest, by rw [Option.some.inj hkey]⟩
  -- Too few or too many arguments fault before anything is looked at.
  rcases rest with _ | ⟨v, _ | ⟨u, rest⟩⟩
  · cases hraised
    rfl
  · have hset : AttributeStore.setHandler .structMembers o [.text m, v] w =
        (do AttributeStore.set o m v .structMembers; return .null : Run Value) w := rfl
    rw [hset, Run.bind_apply] at hraised
    cases hrun : AttributeStore.set o m v .structMembers w with
    | done u w₁ =>
      rw [hrun] at hraised
      cases hraised
    | raised g w₁ =>
      rw [hrun] at hraised
      cases hraised
      exact eq_of_set_raised hstruct hrun
    | diverged =>
      rw [hrun] at hraised
      cases hraised
  · cases hraised
    rfl

/-- What is **refused** by a struct object leaves everything as it is. -/
theorem eq_of_raised (hw : w.WellFormed) (hstruct : w.typeOf o = .struct shape ident)
    (hdirect : ¬ op.IsDirect) (hwrites : op.Writes w o m) {f : Fault}
    (hraised : op.run host w = .raised f w') : w' = w := by
  have hshape : (w.typeOf o).shape = some shape := by rw [hstruct]; rfl
  have hslot : (w.typeOf o).slots .setAttr = some (.setAttr .structMembers) := by
    rw [hstruct]
    exact (TypeDescriptor.keepsAttributes_struct shape ident).setAttr
  -- There are four ways to write a member, and each is refused before it writes.
  rcases struct_cases_of_writes hstruct hdirect hwrites with
    ⟨args, rfl⟩ | ⟨args, rfl, hkey⟩ | ⟨v, rfl, hunmarked⟩ | ⟨data, rfl⟩
  · rw [run_dispatch_init_struct hstruct, Behaviour.constructStruct_eq hshape] at hraised
    cases hhanded : w.handed? o args with
    | none =>
      rw [hhanded] at hraised
      cases hraised
      rfl
    | some entries => simp [hhanded] at hraised
  · have hhandler : host.invoke (.setAttr .structMembers) o args w =
        AttributeStore.setHandler .structMembers o args w := rfl
    simp only [run, Run.bind_apply, host.dispatch_apply hslot, hhandler] at hraised
    cases hrun : AttributeStore.setHandler .structMembers o args w with
    | done u w₁ => simp [hrun] at hraised
    | raised g w₁ =>
      have hsame := eq_of_setHandler_raised hstruct hkey hrun
      simp only [hrun, Outcome.raised.injEq] at hraised
      rw [← hraised.2, hsame]
    | diverged => simp [hrun] at hraised
  · rw [run, Host.setAttr_apply hslot hunmarked] at hraised
    exact eq_of_set_raised hstruct hraised
  · rw [run] at hraised
    rcases Behaviour.assignMembers_outcome hshape hw.settled data with
      ⟨entries, -, -, hrun⟩ | ⟨g, -, hrun⟩
    · rw [hrun] at hraised
      cases hraised
    · rw [hrun] at hraised
      cases hraised
      rfl

/-- Member data leaves what it does not bind. -/
theorem property?_assigned (hshape : (w.typeOf o).shape = some shape) {data : Value}
    (hdone : Behaviour.assignMembers o data w = .done () w')
    (hfree : ¬ w.BindsMember o data m) : w'.property? o m = w.property? o m := by
  obtain ⟨x, hx⟩ := Behaviour.object?_of_shape hshape
  obtain ⟨entries, hbinds, rfl⟩ := Behaviour.exists_of_assignMembers_done hshape hdone
  apply Behaviour.property?_published_unbound hx
  rw [Bindings.last?_eq_none_iff]
  exact fun hname => hfree ⟨shape, entries, hshape, hbinds, hname⟩

/-- What is **done** to a struct object leaves a member without a value, unless it
    is given one or cloned from an object that has one. -/
theorem keptUnset_of_done (hw : w.WellFormed) (hstruct : (w.typeOf o).IsStruct)
    (hdirect : ¬ op.IsDirect) (hwrites : op.Writes w o m)
    (hdone : op.run host w = .done () w') (hgives : ¬ op.Gives w o m)
    (hclones : ∀ q, op.Clones w q o → w.Vacant q m) (hkept : KeptUnset m (w.property? o m)) :
    KeptUnset m (w'.property? o m) := by
  obtain ⟨shape, n, htype⟩ := id hstruct
  have hshape : (w.typeOf o).shape = some shape := by rw [htype]; rfl
  rcases struct_cases_of_writes htype hdirect hwrites with
    ⟨args, rfl⟩ | ⟨args, rfl, hkey⟩ | ⟨v, rfl, -⟩ | ⟨data, rfl⟩
  · rw [run_dispatch_init_struct htype, Behaviour.constructStruct_eq hshape] at hdone
    cases hhanded : w.handed? o args with
    | none => simp [hhanded] at hdone
    | some entries =>
      have hw' : w' = w.setProperties o entries := by simpa [hhanded, eq_comm] using hdone
      rw [hw', World.property?_setProperties (Behaviour.object?_of_shape hshape)]
      exact keptUnset_handed hw hstruct hhanded (fun q hargs => hclones q ⟨rfl, hargs⟩) (.inr hkept)
  · -- To set the attribute, by either way, is to give the member a value.
    exact absurd ⟨rfl, hkey⟩ hgives
  · exact absurd ⟨rfl, rfl⟩ hgives
  · have hfree : ¬ w.BindsMember o data m := fun hbinds => hgives ⟨rfl, hbinds⟩
    rw [property?_assigned hshape hdone hfree]
    exact hkept

end writes

end Operation

/-! ## New struct objects -/

section made
variable {natives : Natives} {w w' : World} {o : ObjectId} {m : String}

/-- A new object of a struct type has what its initializer hands over. -/
theorem keptUnset_add (hw : w.WellFormed) {T : TypeDescriptor} (hT : T.IsStruct)
    {args : List Value} {entries : Bindings Value}
    (hhanded : (w.add (.bare T)).2.handed? ⟨w.heap.size⟩ args = some entries)
    (hclones : ∀ q, args = [.object q] → w.Vacant q m) :
    ((w.add (.bare T)).2.setProperties ⟨w.heap.size⟩ entries).Vacant ⟨w.heap.size⟩ m := by
  obtain ⟨shape, n, rfl⟩ := hT
  have hadded : (w.add (.bare (.struct shape (.declared n)))).2.object? ⟨w.heap.size⟩ =
      some (.bare (.struct shape (.declared n))) := World.object?_add_self w _
  have hallocate : w.allocate (.struct shape (.declared n)) =
      w.add (.bare (.struct shape (.declared n))) := rfl
  have hwell := (hw.fits.allocate (.struct shape (.declared n))).fits.wellFormed
  rw [hallocate] at hwell
  have hstruct : ((w.add (.bare (.struct shape (.declared n)))).2.typeOf ⟨w.heap.size⟩).IsStruct :=
    ⟨shape, n, w.typeOf_add _⟩
  apply World.Vacant.of_isStruct
  · rw [World.typeOf_setProperties]
    exact hstruct
  · rw [World.property?_setProperties ⟨_, hadded⟩]
    refine keptUnset_handed hwell hstruct hhanded (fun q hargs => ?_) (.inl ?_)
    · -- The clone takes over what the prototype had before the new object was added.
      have hold := hclones q hargs
      exact hold.extends (World.later_add w _) (World.object?_add_old w _ hold.lt)
    · rw [World.property?, World.object, hadded]
      rfl

theorem vacant_structDeclared (w : World) (shape : StructShape) (m : String) :
    (w.structDeclared shape).Vacant ⟨w.heap.size⟩ m := by
  have hstruct : ((w.structDeclared shape).typeOf ⟨w.heap.size⟩).IsStruct :=
    ⟨shape, w.nextIdent, w.typeOf_structDeclared shape⟩
  apply World.Vacant.of_isStruct hstruct
  have hadded := World.object?_add_self (w.freshIdent.2.declareType (w.structType shape))
    (.bare (w.structType shape))
  have hobject : (w.structDeclared shape).object? ⟨w.heap.size⟩ =
      some ((Object.bare (w.structType shape)).setProperty declaredName (.text shape.name)) := by
    rw [World.structDeclared, World.setProperty, World.object?_update, if_pos rfl]
    exact congrArg (Option.map _) hadded
  rw [World.property?, World.object, hobject]
  unfold KeptUnset
  by_cases hm : m = declaredName
  · rw [if_pos hm, hm]
    exact ⟨shape.name, Bindings.get?_set_self _ _ _⟩
  · rw [if_neg hm]
    exact Bindings.get?_set_ne hm _ _

theorem vacant_newObject (hw : w.WellFormed) {T : TypeDescriptor} (hT : T.IsStruct)
    {args : List Value} (hdone : natives.newObject T args w = .done o w')
    (hclones : ∀ q, args = [.object q] → w.Vacant q m) : w'.Vacant ⟨w.heap.size⟩ m := by
  obtain ⟨shape, n, htype⟩ := id hT
  rw [htype, natives.newObject_struct, ← htype] at hdone
  cases hhanded : (w.add (.bare T)).2.handed? ⟨w.heap.size⟩ args with
  | none => simp [hhanded] at hdone
  | some entries =>
    simp only [hhanded, Outcome.done.injEq] at hdone
    rw [← hdone.2]
    exact keptUnset_add hw hT hhanded hclones

/-- An instantiation clones the prototype, and then assigns what member data there is. -/
theorem eq_cloned_or_assigned {q : ObjectId} {data : Option Value} {shape : StructShape}
    {ident : TypeId} (htype : w.typeOf q = .struct shape ident)
    (hdone : natives.newStruct (.object q) data w = .done o w') :
    w' = w.cloned (.struct shape ident) q ∨
      ∃ v, data = some v ∧
        Behaviour.assignMembers ⟨w.heap.size⟩ ((w.cloned (.struct shape ident) q).unwrap v)
          (w.cloned (.struct shape ident) q) = .done () w' := by
  have hsome : (TypeDescriptor.struct shape ident).shape.isNone = false := rfl
  simp only [Natives.newStruct, Run.bind_apply, Run.read_apply, htype, hsome, Bool.false_eq_true,
    if_false, natives.newObject_clone htype] at hdone
  cases data with
  | none =>
    cases hdone
    exact .inl rfl
  | some v =>
    simp only [Option.map_some] at hdone
    -- Null for data is the same as no data.
    cases hv : (w.cloned (.struct shape ident) q).unwrap v with
    | null =>
      rw [hv] at hdone
      cases hdone
      exact .inl rfl
    | _ =>
      refine .inr ⟨v, rfl, ?_⟩
      rw [hv]
      simp only [hv, Run.bind_apply] at hdone
      split at hdone
      · next hrun =>
        cases hdone
        exact hrun
      · cases hdone
      · cases hdone

theorem vacant_newStruct (hw : w.WellFormed) {q : ObjectId} {data : Option Value}
    (hprototype : (w.typeOf q).IsStruct)
    (hdone : natives.newStruct (.object q) data w = .done o w')
    (hgives : ∀ v, data = some v → ¬ (w.cloned (w.typeOf q) q).BindsMember ⟨w.heap.size⟩
      ((w.cloned (w.typeOf q) q).unwrap v) m)
    (hclones : w.Vacant q m) : w'.Vacant ⟨w.heap.size⟩ m := by
  obtain ⟨shape, n, htype⟩ := id hprototype
  have hvacant : (w.cloned (.struct shape (.declared n)) q).Vacant ⟨w.heap.size⟩ m := by
    refine vacant_newObject hw ⟨shape, n, rfl⟩ (natives.newObject_clone htype) fun p hp => ?_
    obtain rfl : q = p := by simpa using hp
    exact hclones
  rw [htype] at hgives
  rcases eq_cloned_or_assigned htype hdone with rfl | ⟨v, hv, hrun⟩
  · exact hvacant
  · -- Data that do not bind the member leave it as it was cloned.
    have hshape : ((w.cloned (.struct shape (.declared n)) q).typeOf ⟨w.heap.size⟩).shape =
        some shape := by rw [World.typeOf_cloned]; rfl
    obtain ⟨x, hx⟩ := Behaviour.object?_of_shape hshape
    apply World.Vacant.of_isStruct
    · obtain ⟨entries, -, rfl⟩ := Behaviour.exists_of_assignMembers_done hshape hrun
      rw [Behaviour.typeOf_published hx, World.typeOf_cloned]
      exact ⟨shape, n, rfl⟩
    · rw [Operation.property?_assigned hshape hrun (hgives v hv)]
      exact hvacant.kept (Option.isSome_iff_exists.mpr ⟨x, hx⟩)

end made

/-! ## Steps -/

namespace Operation

section steps
variable {host : Host} {w w' : World} {u : Unset} {o : ObjectId} {m : String} {op : Operation}

section respected
variable (hwell : host.Respects World.unsealed) (hhost : host.Respects (World.only o m))
include hwell hhost

/-- What an operation does not write stays as it is. -/
theorem vacant_of_not_writes (hw : w.WellFormed) (hvalues : w.SupportsAll op.values)
    (hends : op.EndsIn host w w') (h : w.Vacant o m) (hwrites : ¬ op.Writes w o m) :
    w'.Vacant o m := by
  have hsafe := safe_of_endsIn hwell hw.fits hvalues (fun _ _ _ h => h) hends
  refine h.later hsafe.later fun halive => ?_
  obtain ⟨shape, n, hstruct⟩ := h.isStruct halive
  have hothers : ∀ p name, op.Writes w p name → ¬ World.only o m p name := by
    rintro p name hother ⟨rfl, rfl⟩
    exact hwrites hother
  have hkept := safe_of_endsIn hhost (hw.fits_only hstruct) hvalues hothers hends
  exact hkept.property?_eq ⟨rfl, rfl⟩

/-- A **refused** operation gives nothing. -/
theorem vacant_of_raised (hw : w.WellFormed) (hdirect : ¬ op.IsDirect)
    (hvalues : w.SupportsAll op.values) {f : Fault} (hraised : op.run host w = .raised f w')
    (h : w.Vacant o m) : w'.Vacant o m := by
  by_cases hwrites : op.Writes w o m
  · have hsafe := safe_of_endsIn hwell hw.fits hvalues (fun _ _ _ h => h) (.inr ⟨f, hraised⟩)
    refine h.later hsafe.later fun halive => ?_
    obtain ⟨shape, n, hstruct⟩ := h.isStruct halive
    rw [eq_of_raised hw hstruct hdirect hwrites hraised]
  · exact vacant_of_not_writes hwell hhost hw hvalues (.inr ⟨f, hraised⟩) h hwrites

/-- An operation that is **done** leaves a member without a value if it gives none
    and clones from objects without one only. -/
theorem vacant_of_done (hw : w.WellFormed) (hdirect : ¬ op.IsDirect)
    (hvalues : w.SupportsAll op.values)
    (hdone : op.run host w = .done () w') (hgives : ¬ op.Gives w o m)
    (hclones : ∀ q, op.Clones w q o → w.Vacant q m) (h : w.Vacant o m) : w'.Vacant o m := by
  by_cases hwrites : op.Writes w o m
  · have hsafe := safe_of_endsIn hwell hw.fits hvalues (fun _ _ _ h => h) (.inl hdone)
    have halive := hsafe.later.isAlive_eq h.lt
    refine ⟨Nat.lt_of_lt_of_le h.lt hsafe.later.size_le, fun hlives => ?_, fun hlives => ?_⟩
    · rw [hsafe.later.typeOf_eq h.lt]
      exact h.isStruct (halive ▸ hlives)
    · rw [halive] at hlives
      exact keptUnset_of_done hw (h.isStruct hlives) hdirect hwrites hdone hgives hclones
        (h.kept hlives)
  · exact vacant_of_not_writes hwell hhost hw hvalues (.inl hdone) h hwrites

end respected

/-- A struct object that an operation makes has nothing that it is not given. -/
theorem vacant_of_makes (hw : w.WellFormed) (hmakes : op.Makes w o)
    (hdone : op.run host w = .done () w') (hgives : ¬ op.Gives w o m)
    (hclones : ∀ q, op.Clones w q o → w.Vacant q m) : w'.Vacant o m := by
  -- An operation forgets what it has made, so this is recovered from the run.
  have hresult : ∀ {r : Run ObjectId}, (do let _ ← r : Run Unit) w = .done () w' →
      ∃ p, r w = .done p w' := by
    intro r hr
    rw [Run.bind_apply] at hr
    cases hrun : r w with
    | done p w₁ =>
      rw [hrun] at hr
      cases hr
      exact ⟨p, rfl⟩
    | raised f w₁ => simp [hrun] at hr
    | diverged => simp [hrun] at hr
  cases op with
  | makeStruct name members guarded =>
    obtain rfl : o = ⟨w.heap.size⟩ := hmakes
    obtain ⟨p, hp⟩ := hresult hdone
    rw [Natives.makeStruct_eq] at hp
    cases hshape : Behaviour.declaredShape w name members guarded with
    | error f => simp [hshape] at hp
    | ok shape =>
      simp only [hshape, Outcome.done.injEq] at hp
      rw [← hp.2]
      exact vacant_structDeclared w shape m
  | construct T args =>
    obtain ⟨rfl, hT⟩ := hmakes
    obtain ⟨p, hp⟩ := hresult hdone
    exact vacant_newObject hw hT hp fun q hargs => hclones q ⟨rfl, hargs⟩
  | newStruct prototype data =>
    obtain ⟨rfl, q, rfl, hq⟩ := hmakes
    obtain ⟨p, hp⟩ := hresult hdone
    exact vacant_newStruct hw hq hp (fun v hv hbinds => hgives ⟨rfl, q, v, rfl, hv, hbinds⟩)
      (hclones q ⟨rfl, rfl⟩)
  | _ => exact hmakes.elim

end steps

end Operation

/-! ## Whole runs -/

section runs
variable {host : Host} {w : World} {u : Unset} {o : ObjectId} {m : String}

theorem MemberRun.wellFormed (hwell : host.Respects World.unsealed) (hrun : MemberRun host u w) :
    w.WellFormed := by
  have hsafe : ∀ {w w' : World} {op : Operation}, w.WellFormed → w.SupportsAll op.values →
      op.EndsIn host w w' → w'.WellFormed := fun hw hvalues hends =>
    (Operation.safe_of_endsIn hwell hw.fits hvalues (fun _ _ _ h => h) hends).fits.wellFormed
  induction hrun with
  | start => exact World.wellFormed_initial
  | done _ op _ hvalues hdone ih => exact hsafe ih hvalues (.inl hdone)
  | refused _ op _ hvalues hraised ih => exact hsafe ih hvalues (.inr ⟨_, hraised⟩)
  | collect _ roots ih => exact ih.collect roots

/-- The invariant: whatever is on record as never given is not there. -/
theorem MemberRun.vacant (hwell : host.Respects World.unsealed)
    (hhost : ∀ q : ObjectId, q.index < w.heap.size → host.Respects (World.only q m))
    (hrun : MemberRun host u w) : ∀ o, u o m → w.Vacant o m := by
  induction hrun with
  | start => exact fun _ h => h.elim
  -- The hosts of an earlier world are those of a later one, which has no fewer objects.
  | @done u w w' hbefore op hdirect hvalues hdone ih =>
    have hw := hbefore.wellFormed hwell
    have hsafe := Operation.safe_of_endsIn hwell hw.fits hvalues (fun _ _ _ h => h) (.inl hdone)
    have hvacant := ih fun q hq => hhost q (Nat.lt_of_lt_of_le hq hsafe.later.size_le)
    intro o ⟨hmade, hgives, hclones⟩
    have hclones' : ∀ q, op.Clones w q o → w.Vacant q m :=
      fun q hq => hvacant q (hclones q hq)
    -- The object is new, or is an old one that has not been given the member.
    rcases hmade with hmakes | hold
    · exact Operation.vacant_of_makes hw hmakes hdone hgives hclones'
    · have hlt := Nat.lt_of_lt_of_le (hvacant o hold).lt hsafe.later.size_le
      exact Operation.vacant_of_done hwell (hhost o hlt) hw hdirect hvalues hdone hgives hclones'
        (hvacant o hold)
  | @refused u w w' f hbefore op hdirect hvalues hraised ih =>
    have hw := hbefore.wellFormed hwell
    have hsafe := Operation.safe_of_endsIn hwell hw.fits hvalues (fun _ _ _ h => h)
      (.inr ⟨f, hraised⟩)
    have hvacant := ih fun q hq => hhost q (Nat.lt_of_lt_of_le hq hsafe.later.size_le)
    intro o hold
    have hlt := Nat.lt_of_lt_of_le (hvacant o hold).lt hsafe.later.size_le
    exact Operation.vacant_of_raised hwell (hhost o hlt) hw hdirect hvalues hraised
      (hvacant o hold)
  | @collect u w _ roots ih =>
    rw [World.size_collect] at hhost
    exact fun o hold => (ih hhost o hold).collect roots

/-- The property that an attribute of a name addresses in a struct object. -/
def Host.addressed (m : String) : String := (markedProperty? m).getD m

/-- A member reads as its property, and as null without one. -/
theorem Host.getAttr_member {shape : StructShape} {ident : TypeId}
    (hstruct : w.typeOf o = .struct shape ident) (hmember : shape.hasMember m = true) :
    host.getAttr o m w =
      .done ((w.property? o (addressed m)).getD (.object World.nullObject)) w := by
  unfold addressed
  cases hname : markedProperty? m with
  | some property => simp only [getAttr, hname, Run.read_apply, Option.getD_some]
  | none =>
    rw [getAttr_struct_getD hstruct hname fun _ => hmember, Option.getD_none]

/-- **Members that have never been given a value**, neither to the object nor to any
    that it was cloned from, read as null, with one exception: where the name of
    the struct is kept, that is what is read. -/
theorem unset_member_after_run (hwell : host.Respects World.unsealed)
    (hhost : ∀ q : ObjectId, q.index < w.heap.size →
      host.Respects (World.only q (Host.addressed m))) (hrun : MemberRun host u w)
    {shape : StructShape} {n : Nat} (hstruct : w.typeOf o = .struct shape (.declared n))
    (hmember : shape.hasMember m = true) (hunset : u o (Host.addressed m)) :
    (host.getAttr o m w = .done (.object World.nullObject) w ↔
        Host.addressed m ≠ declaredName) ∧
      (Host.addressed m = declaredName → ∃ text, host.getAttr o m w = .done (.text text) w) := by
  have halive := World.isAlive_of_isStruct ⟨shape, n, hstruct⟩
  have hkept := (hrun.vacant hwell hhost o hunset).kept halive
  rw [Host.getAttr_member hstruct hmember]
  unfold KeptUnset at hkept
  by_cases hm : Host.addressed m = declaredName
  · rw [if_pos hm] at hkept
    obtain ⟨text, htext⟩ := hkept
    rw [htext, Option.getD_some]
    exact ⟨⟨fun h => (by cases h), fun h => absurd hm h⟩, fun _ => ⟨text, rfl⟩⟩
  · rw [if_neg hm] at hkept
    rw [hkept, Option.getD_none]
    exact ⟨⟨fun _ => hm, fun _ => rfl⟩, fun h => absurd h hm⟩

end runs

/-- The second clone of a point has been given `y`, and `x` is still unset. -/
theorem unset_member_of_clone :
    ∃ u w, MemberRun Stock.host u w ∧ u ⟨5⟩ "x" ∧
      Stock.host.getAttr ⟨5⟩ "x" w = .done (.object World.nullObject) w := by
  have hnames : ∀ w : World,
      w.SupportsAll [.text "Point", .list [.text "x", .text "y"], .list []] := by
    simp [World.supports_list]
  have hfirst : ∀ w : World, w.SupportsAll [.object ⟨3⟩] := by simp
  have hsecond : ∀ w : World, w.SupportsAll [.object ⟨4⟩, .dict [("y", .int 1)]] := by
    simp [World.supports_dict, Bindings.names]
  have hstart : MemberRun Stock.host .nowhere .initial := .start
  have hdeclared := hstart.done
    (.makeStruct (.text "Point") (.list [.text "x", .text "y"]) (.list [])) (fun h => h)
    (hnames _) rfl
  have hcloned := hdeclared.done (.newStruct (.object ⟨3⟩) none) (fun h => h) (hfirst _) rfl
  have hassigned := hcloned.done (.newStruct (.object ⟨4⟩) (some (.dict [("y", .int 1)])))
    (fun h => h) (hsecond _) rfl
  have hreads := unset_member_after_run (o := ⟨5⟩) (m := "x") Stock.host_respects
    (fun _ _ => Stock.host_respects) hassigned rfl rfl
  refine ⟨_, _, hassigned, ?unset, (hreads ?unset).1.mpr (by decide)⟩
  -- The second clone is on record because the first one is, and that one because the
  -- prototype is.
  refine ⟨.inl ⟨rfl, ⟨4⟩, rfl, _, _, rfl⟩, ?_, ?_⟩
  · rintro ⟨-, q, v, -, hv, shape, entries, -, hbinds, hname⟩
    cases hv
    cases hbinds with
    | dict h =>
      cases h
      simp [Bindings.names] at hname
    | list h _ => cases h
  · rintro q ⟨-, hq⟩
    cases hq
    refine ⟨.inl ⟨rfl, ⟨3⟩, rfl, _, _, rfl⟩, ?_, ?_⟩
    · rintro ⟨-, q, v, -, hv, -⟩
      cases hv
    · rintro q ⟨-, hq⟩
      cases hq
      exact ⟨.inl rfl, fun h => h, fun _ h => h.elim⟩

/-- A struct whose only member is called as the name of the struct is kept. -/
theorem unset_member_reads_name :
    ∃ u w, MemberRun Stock.host u w ∧ u ⟨3⟩ declaredName ∧
      w.typeOf ⟨3⟩ = .struct ⟨"S", [declaredName], []⟩ (.declared 0) ∧
      Stock.host.getAttr ⟨3⟩ declaredName w = .done (.text "S") w := by
  have hnames : World.initial.SupportsAll [.text "S", .list [.text declaredName], .list []] := by
    simp [World.supports_list]
  have hstart : MemberRun Stock.host .nowhere .initial := .start
  have hdeclared := hstart.done (.makeStruct (.text "S") (.list [.text declaredName]) (.list []))
    (fun h => h) hnames rfl
  exact ⟨_, _, hdeclared, ⟨.inl rfl, fun h => h, fun _ h => h.elim⟩, rfl, rfl⟩

end DynamicObjects
