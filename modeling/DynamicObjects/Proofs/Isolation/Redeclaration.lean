import DynamicObjects.Proofs.Isolation.Answer
import DynamicObjects.Proofs.Isolation.Insertion
import DynamicObjects.Proofs.Method.Bound

/-! # Declarations and existing objects

    A struct can be declared again, with another shape under the same name, and
    modules declare their structs whenever they are loaded.  None of this reaches
    an object that exists: its type is the one that it was created with, and all
    that is done to it goes by this type.

    This compares a run with the run of the same operations that has declarations
    inserted.  Identities show in texts, so that results can be compared only if
    new objects have the same identities in both runs: the run without the
    declarations passes over the identities that they take.

    What the declared types own is an exception.  A type owns its shared methods
    as long as it is declared, and a declaration under the same name takes its
    place.  So when objects are released, what the declared types share has to be
    kept alive in both runs.

    The argument:
    1. When declarations are inserted, the worlds of the two runs come to lie side
       by side, and they stay so when objects are released.
    2. An operation on what the worlds have in common ends in the same way in
       both, and leaves them side by side.

    Main results:
    - `Interleaved.invariant`: the worlds of the two runs lie side by side
    - `declarations_reach_no_object`: and the runs have the same results -/

namespace DynamicObjects

open Run

/-! ## The two runs -/

/-- What may be inserted: declarations, and identities of the types to declare. -/
def Operation.IsInsertable (op : Operation) : Prop := op.IsDeclaration ∨ op = .freshIdent

/-- A rule for the release of objects in two runs at once, which looks at their
    worlds and at what the program owns in each of them. -/
abbrev ReleaseRule := Apart → World → World → List ObjectId → List ObjectId → Prop

/-- A **run** without and with declarations inserted: what is set apart because of
    them, the results of either run, and the worlds that they lead to.  An
    operation is given what the run without the declarations has, and the program
    may own what the declarations have made. -/
inductive Interleaved (host : Host) (rule : ReleaseRule) (start : World) :
    Apart → List (Except Fault Answer) → List (Except Fault Answer) → World → World → Prop where
  | start : Interleaved host rule start .nothing [] [] start start
  /-- An operation of the program, which is performed in both runs. -/
  | step {S : Apart} {results results' : List (Except Fault Answer)} {w w' w₁ w₁' : World}
      (h : Interleaved host rule start S results results' w w') (op : Operation)
      (hop : op.Clear S w) (hvalues : w.SupportsAll op.values)
      {result result' : Except Fault Answer}
      (hends : op.EndsWith host w result w₁) (hends' : op.EndsWith host w' result' w₁') :
      Interleaved host rule start S (results ++ [result]) (results' ++ [result']) w₁ w₁'
  /-- An insertion in the second run.  The first one passes over what it takes. -/
  | insert {S : Apart} {results results' : List (Except Fault Answer)} {w w' w₁' : World}
      (h : Interleaved host rule start S results results' w w') (declaration : Operation)
      (hinsertable : declaration.IsInsertable) (hknown : declaration.Clear .nothing w')
      (hends : declaration.EndsIn host w' w₁') :
      Interleaved host rule start (S.grown w' w₁') results results'
        (w.passOver (w₁'.heap.size - w'.heap.size) (w₁'.nextIdent - w'.nextIdent)) w₁'
  /-- A release in both runs of what is not owned any more. -/
  | release {S : Apart} {results results' : List (Except Fault Answer)} {w w' : World}
      (h : Interleaved host rule start S results results' w w') (roots roots' : List ObjectId)
      (hroots : ∀ o, ¬ S.objects o → (o ∈ roots' ↔ o ∈ roots)) (hrule : rule S w w' roots roots') :
      Interleaved host rule start S results results' (w.collect roots) (w'.collect roots')

/-- What the two runs keep. -/
structure Interleaved.Invariant (S : Apart) (results results' : List (Except Fault Answer))
    (w w' : World) : Prop where
  results_eq : results' = results
  beside : w.Beside S w'
  grounded : w'.Grounded
  wellFormed : w.WellFormed

namespace Operation

variable {host : Host} {S : Apart} {w w' w₁ w₁' : World} {op : Operation}

/-- What may be inserted ends everywhere. -/
theorem IsInsertable.exists_endsIn (h : op.IsInsertable) (host : Host) (w : World) :
    ∃ w₁, op.EndsIn host w w₁ := by
  rcases h with hdeclaration | rfl
  · obtain ⟨w₁, hends, -⟩ := hdeclaration.exists_records host w
    exact ⟨w₁, hends⟩
  · exact ⟨_, .inl rfl⟩

theorem IsInsertable.extends (h : op.IsInsertable) (hends : op.EndsIn host w w₁) :
    w.Extends w₁ := by
  rcases h with hdeclaration | rfl
  · exact (declares hdeclaration hends).1
  · have hw₁ : w₁ = w.freshIdent.2 := by simpa [EndsIn, run, eq_comm] using hends
    rw [hw₁]
    exact ⟨Nat.le_refl _, fun _ => rfl, Nat.le_succ _⟩

theorem IsInsertable.confines (h : op.IsInsertable) (hends : op.EndsIn host w w₁) {K : Apart}
    (hK : ∀ o : ObjectId, w.heap.size ≤ o.index → K.objects o)
    (hidents : ∀ n, w.nextIdent ≤ n → K.idents n) (hw : w.Confined K) : w₁.Confined K := by
  rcases h with hdeclaration | rfl
  · exact (hdeclaration.records hends).confined hK hidents hw
  · have hw₁ : w₁ = w.freshIdent.2 := by simpa [EndsIn, run, eq_comm] using hends
    rw [hw₁]
    exact hw.congr fun _ => rfl

/-- What is clear of what is set apart exists in the other world as well. -/
theorem Clear.known (hw : w.Beside S w') (hop : op.Clear S w) : op.Clear .nothing w' := by
  have houtside : ∀ {o}, w.Outside S o → w'.Outside .nothing o :=
    fun ho => ⟨by rw [hw.size_eq]; exact ho.1, id⟩
  refine ⟨fun v hv => (hop.values v hv).mono fun _ ho => houtside ho,
    fun o ho => houtside (hop.objects o ho), fun T hT => ⟨?_, fun n hn => ?_⟩⟩
  · exact fun o ho => houtside ((hop.types T hT).shared o ho)
  · rw [hw.nextIdent_eq]
    exact ⟨((hop.types T hT).ident n hn).1, id⟩

theorem grounded_of_endsWith (hhost : host.Oblivious .nothing) (hw : w.Grounded)
    (hop : op.Clear .nothing w) {result : Except Fault Answer}
    (hends : op.EndsWith host w result w₁) : w₁.Grounded := by
  obtain ⟨w₂, hends₂, honward, -⟩ := exists_endsWith hhost hw hop hends
  obtain ⟨-, rfl⟩ := hends.unique hends₂
  exact honward.beside

end Operation

namespace Interleaved

variable {host : Host} {start w w' w₁ w₁' : World} {S : Apart}
  {results results' : List (Except Fault Answer)} {op : Operation}

/-- **Step**: an operation on what the worlds have in common. -/
theorem Invariant.step (hhost : ∀ S, host.Oblivious S) (hwell : host.Respects World.unsealed)
    (h : Invariant S results results' w w') (hop : op.Clear S w)
    (hvalues : w.SupportsAll op.values) {result result' : Except Fault Answer}
    (hends : op.EndsWith host w result w₁) (hends' : op.EndsWith host w' result' w₁') :
    Invariant S (results ++ [result]) (results' ++ [result']) w₁ w₁' := by
  obtain ⟨w₂', hends₂', honward, -⟩ := Operation.exists_endsWith (hhost S) h.beside hop hends
  obtain ⟨rfl, rfl⟩ := hends'.unique hends₂'
  have hsafe := Operation.safe_of_endsIn hwell h.wellFormed.fits hvalues (fun _ _ _ h => h)
    (Operation.endsIn_iff.mpr ⟨_, hends⟩)
  refine ⟨by rw [h.results_eq], honward.beside, ?_, hsafe.fits.wellFormed⟩
  exact Operation.grounded_of_endsWith (hhost _) h.grounded (hop.known h.beside) hends'

/-- **Step**: an insertion. -/
theorem Invariant.insert (hhost : ∀ S, host.Oblivious S) (h : Invariant S results results' w w')
    (hinsertable : op.IsInsertable) (hknown : op.Clear .nothing w')
    (hends : op.EndsIn host w' w₁') :
    Invariant (S.grown w' w₁') results results'
      (w.passOver (w₁'.heap.size - w'.heap.size) (w₁'.nextIdent - w'.nextIdent)) w₁' := by
  obtain ⟨result, hends'⟩ := Operation.endsIn_iff.mp hends
  have hgrounded := Operation.grounded_of_endsWith (hhost _) h.grounded hknown hends'
  refine ⟨h.results_eq, ?_, hgrounded, h.wellFormed.passOver _ _⟩
  exact h.beside.insert (hinsertable.extends hends) hgrounded
    fun K hK hidents hw => hinsertable.confines hends hK hidents hw

/-- **Step**: a release. -/
theorem Invariant.release (h : Invariant S results results' w w') {roots roots' : List ObjectId}
    (hroots : ∀ o, ¬ S.objects o → (o ∈ roots' ↔ o ∈ roots))
    (halike : w.OwnAlike S w' roots roots') :
    Invariant S results results' (w.collect roots) (w'.collect roots') :=
  ⟨h.results_eq, h.beside.collect fun _ ho => h.beside.kept_iff hroots halike ho,
    h.grounded.collect fun _ _ => Iff.rfl, h.wellFormed.collect roots⟩

/-- **The worlds of the two runs lie side by side.** -/
theorem invariant (hhost : ∀ S, host.Oblivious S) (hwell : host.Respects World.unsealed)
    (hgrounded : start.Grounded) (hstart : start.WellFormed)
    (hrun : Interleaved host World.OwnAlike start S results results' w w') :
    Invariant S results results' w w' := by
  induction hrun with
  | start => exact ⟨rfl, hgrounded, hgrounded, hstart⟩
  | step _ _ hop hvalues hends hends' ih => exact ih.step hhost hwell hop hvalues hends hends'
  | insert _ _ hinsertable hknown hends ih => exact ih.insert hhost hinsertable hknown hends
  | release _ _ _ hroots halike ih => exact ih.release hroots halike

end Interleaved

/-! ## Declarations reach no object -/

namespace World

variable {S : Apart} {w w' : World}

theorem builtins_have_no_shape : ∀ T ∈ TypeDescriptor.builtins, T.shape = none := by decide

/-- **Refusal**: an object from outside is no prototype of a struct that is set
    apart, whatever the two structs are called. -/
theorem Beside.newObject_refused (natives : Natives) (h : w.Beside S w')
    {prototype o : ObjectId} {shape : StructShape} (hprototype : S.objects prototype)
    (hshape : (w'.typeOf prototype).shape = some shape) (ho : w.Outside S o) :
    ∃ w₁', natives.newObject (w'.typeOf prototype) [.object o] w' =
      .raised (.notConstructible shape.name) w₁' := by
  obtain ⟨x, hx⟩ := Behaviour.object?_of_shape hshape
  have htype : w'.typeOf prototype = x.type := by
    rw [typeOf, object, hx]
    rfl
  rw [htype] at hshape ⊢
  rcases (h.confined hprototype hx).type with hbuiltin | ⟨shape', n, hstruct, hn⟩
  · rw [builtins_have_no_shape _ hbuiltin] at hshape
    cases hshape
  · rw [hstruct] at hshape ⊢
    obtain rfl : shape' = shape := Option.some.inj hshape
    -- The identity of the struct is none of those that outside objects have.
    have hident : (w'.typeOf o).ident ≠ .declared n := by
      intro heq
      rw [h.typeOf_eq ho] at heq
      exact ((h.clear_typeOf o).ident n heq).2 hn
    have hlt : o.index < w'.heap.size := by
      rw [h.size_eq]
      exact ho.1
    have hhanded : (w'.add (.bare (.struct shape' (.declared n)))).2.handed? ⟨w'.heap.size⟩
        [.object o] = none := by
      rw [handed?, isInstanceOf, (later_add w' _).typeOf_eq hlt, typeOf_add]
      refine if_neg fun hinstance => hident (of_decide_eq_true hinstance)
    rw [natives.newObject_struct, hhanded]
    exact ⟨_, rfl⟩

end World

/-- **Declarations reach no existing object**: a run ends in the same way and with
    the same results whatever declarations are inserted.  The objects and how they
    compare are the same all the time; whatever comes next ends in the same way
    and leaves every object its type; and no object is a prototype of a struct
    that has been inserted. -/
theorem declarations_reach_no_object {host : Host} (hhost : ∀ S, host.Oblivious S)
    (hwell : host.Respects World.unsealed) {start : World} (hgrounded : start.Grounded)
    (hstart : start.WellFormed) {S : Apart} {results results' : List (Except Fault Answer)}
    {w w' : World} (hrun : Interleaved host World.OwnAlike start S results results' w w') :
    results' = results ∧
    (∀ o, ¬ S.objects o → w'.object? o = w.object? o) ∧
    (∀ (op : Operation) (result : Except Fault Answer) (w₁ : World), op.Clear S w →
      w.SupportsAll op.values → op.EndsWith host w result w₁ →
      ∃ w₁', op.EndsWith host w' result w₁' ∧
        (∀ o, ¬ S.objects o → w₁'.object? o = w₁.object? o) ∧
        ∀ o, w.Outside S o → w₁'.typeOf o = w'.typeOf o) ∧
    (∀ declaration : Operation, declaration.IsInsertable →
      ∃ w₁', declaration.EndsIn host w' w₁' ∧
        ∀ o : ObjectId, o.index < w'.heap.size → w₁'.object? o = w'.object? o) ∧
    (∀ x y, w.Clear S x → w.Clear S y →
      w'.structurallyEqual x y = w.structurallyEqual x y ∧
      w'.compareStructurally x y = w.compareStructurally x y ∧ w'.truth x = w.truth x) ∧
    (∀ prototype o shape, S.objects prototype → (w'.typeOf prototype).shape = some shape →
      w.Outside S o → ∃ w₁', host.natives.newObject (w'.typeOf prototype) [.object o] w' =
        .raised (.notConstructible shape.name) w₁') := by
  obtain ⟨hresults, hbeside, -, hwellFormed⟩ := hrun.invariant hhost hwell hgrounded hstart
  refine ⟨hresults, fun o ho => hbeside.object?_eq ho, ?_, ?_, ?_, ?_⟩
  · intro op result w₁ hop hvalues hends
    obtain ⟨w₁', hends', honward, -⟩ := Operation.exists_endsWith (hhost S) hbeside hop hends
    refine ⟨w₁', hends', fun o ho => honward.beside.object?_eq ho, fun o ho => ?_⟩
    -- No operation changes types in the first world, and the second one has the same.
    have hsafe := Operation.safe_of_endsIn hwell hwellFormed.fits hvalues (fun _ _ _ h => h)
      (Operation.endsIn_iff.mpr ⟨_, hends⟩)
    rw [honward.beside.typeOf_eq (honward.outside ho), hsafe.later.typeOf_eq ho.1,
      hbeside.typeOf_eq ho]
  · intro declaration hinsertable
    obtain ⟨w₁', hends⟩ := hinsertable.exists_endsIn host w'
    exact ⟨w₁', hends, fun o ho => (hinsertable.extends hends).object?_eq ho⟩
  · intro x y hx hy
    exact ⟨hbeside.structurallyEqual_eq hx hy, hbeside.compareStructurally_eq hx hy,
      hbeside.truth_eq hx⟩
  · intro prototype o shape hprototype hshape ho
    exact hbeside.newObject_refused host.natives hprototype hshape ho

/-- The declaration of a struct. -/
def declarePoint (members : List String) : Operation :=
  .makeStruct (.text "Point") (.list (members.map .text)) (.list [])

theorem clear_declarePoint {S : Apart} {w : World} (members : List String) :
    (declarePoint members).Clear S w := by
  refine ⟨?_, fun o ho => absurd ho List.not_mem_nil, fun T hT => absurd hT List.not_mem_nil⟩
  simp [World.ClearAll, declarePoint, Operation.values, Value.within_list]

/-- A struct is declared. -/
def pointDeclared : World := World.initial.structDeclared ⟨"Point", ["x"], []⟩

/-- A struct of the same name is declared. -/
def pointRedeclared : World := pointDeclared.structDeclared ⟨"Point", ["x", "y"], []⟩

/-- A struct is declared and cloned, another one of the same name is declared in
    between, and in the end everything is released but the prototypes and the
    clone. -/
theorem declarations_reach_no_object_point :
    ∃ S results results' w w',
      Interleaved Stock.host World.OwnAlike .initial S results results' w w' ∧
      results = [.ok (.object ⟨3⟩), .ok (.object ⟨5⟩)] ∧ results' = results ∧
      w'.isAlive ⟨4⟩ = true ∧ w'.object? ⟨5⟩ = w.object? ⟨5⟩ ∧
      ∃ w₁', Stock.host.natives.newObject (w'.typeOf ⟨4⟩) [.object ⟨3⟩] w' =
        .raised (.notConstructible "Point") w₁' := by
  have hdeclares : (declarePoint ["x"]).EndsWith Stock.host .initial (.ok (.object ⟨3⟩))
      pointDeclared := rfl
  have hinserts : (declarePoint ["x", "y"]).EndsIn Stock.host pointDeclared pointRedeclared :=
    .inl rfl
  have hclones : (Operation.newStruct (.object ⟨3⟩) none).EndsWith Stock.host
      (pointDeclared.passOver 1 1) (.ok (.object ⟨5⟩))
      ((pointDeclared.passOver 1 1).cloned (pointDeclared.typeOf ⟨3⟩) ⟨3⟩) := rfl
  have hclones' : (Operation.newStruct (.object ⟨3⟩) none).EndsWith Stock.host pointRedeclared
      (.ok (.object ⟨5⟩)) (pointRedeclared.cloned (pointDeclared.typeOf ⟨3⟩) ⟨3⟩) := rfl
  -- The second prototype is all that is set apart.
  let S := Apart.nothing.grown pointDeclared pointRedeclared
  have happart : S.objects ⟨4⟩ := .inr ⟨by decide, by decide⟩
  have hfirst : ¬ S.objects ⟨3⟩ := by
    rintro (hnothing | ⟨hle, -⟩)
    · exact hnothing
    · exact absurd hle (by decide)
  have hclone : ¬ S.objects ⟨5⟩ := by
    rintro (hnothing | ⟨-, hlt⟩)
    · exact hnothing
    · exact absurd hlt (by decide)
  have hprototype : (Operation.newStruct (.object ⟨3⟩) none).Clear S (pointDeclared.passOver 1 1) :=
    ⟨List.forall_mem_singleton.mpr (Value.within_object.mpr ⟨by decide, hfirst⟩),
      fun o ho => absurd ho List.not_mem_nil, fun T hT => absurd hT List.not_mem_nil⟩
  have hroots : ∀ o, ¬ S.objects o → (o ∈ [⟨3⟩, ⟨4⟩, ⟨5⟩] ↔ o ∈ [⟨3⟩, ⟨5⟩]) := by
    intro o ho
    have hne : o ≠ ⟨4⟩ := fun heq => ho (heq ▸ happart)
    simp [hne]
  have hdeclared := (@Interleaved.start Stock.host World.OwnAlike .initial).step _
    (clear_declarePoint ["x"]) (by simp [declarePoint, Operation.values, World.supports_list])
    hdeclares hdeclares
  have hinserted := hdeclared.insert (declarePoint ["x", "y"]) (.inl trivial)
    (clear_declarePoint _) hinserts
  have hcloned := hinserted.step _ hprototype (by simp [Operation.values]) hclones hclones'
  have hreleased := hcloned.release [⟨3⟩, ⟨5⟩] [⟨3⟩, ⟨4⟩, ⟨5⟩] hroots
    (World.ownAlike_of_nothing_shared (by decide) (by decide))
  obtain ⟨hresults, hobjects, -, -, -, hrefused⟩ :=
    declarations_reach_no_object (fun _ => Stock.host_oblivious) Stock.host_respects
      World.grounded_initial World.wellFormed_initial hreleased
  refine ⟨_, _, _, _, _, hreleased, rfl, hresults, ?_, hobjects ⟨5⟩ hclone,
    hrefused ⟨4⟩ ⟨3⟩ ⟨"Point", ["x", "y"], []⟩ happart ?_ ⟨?_, hfirst⟩⟩
  · exact World.isAlive_collect_iff.mpr ⟨rfl, .of_root (by simp)⟩
  · rw [World.typeOf, World.object, World.object?_collect_of_kept (.of_root (by simp))]
    rfl
  · rw [World.size_collect]
    decide

/-! ## A type that owned an object -/

/-- A type that shares the array under the name of a method. -/
def keeperType : TypeDescriptor :=
  ((TypeBuilder.new "Keeper" .type).sharedMethod "held" ⟨3⟩).build
    (.declared arrayOfOne.nextIdent)

/-- A type of the same name that shares nothing. -/
def emptyKeeperType : TypeDescriptor :=
  (TypeBuilder.new "Keeper" .type).build (.declared (arrayOfOne.nextIdent + 1))

/-- The array, and the declared type that owns it. -/
def keeperDeclared : World := arrayOfOne.freshIdent.2.declareType keeperType

/-- The same after the declaration of the second type. -/
def keeperRedeclared : World := keeperDeclared.freshIdent.2.declareType emptyKeeperType

section keeper
variable {w : World}

theorem bindsTo_copy (hmethod : w.object? ⟨15⟩ = arrayOfOne.object? ⟨15⟩) :
    w.BindsTo ⟨15⟩ ⟨3⟩ "array.copy" (.array .copy) := by
  refine ⟨?_, ⟨11, "copy", .bound ⟨3⟩ "array.copy" (.array .copy)⟩, ?_, rfl⟩
  · rw [World.typeOf, World.object, hmethod]
    rfl
  · rw [World.payload?, World.property?, World.object, hmethod]
    rfl

/-- A call copies the array if this is still there. -/
theorem call_copy_done (hmethod : w.object? ⟨15⟩ = arrayOfOne.object? ⟨15⟩)
    (harray : w.object? ⟨3⟩ = arrayOfOne.object? ⟨3⟩) :
    (Operation.dispatch ⟨15⟩ .call []).EndsWith Stock.host w
      (.ok (.value (.list [.object ⟨16⟩]))) w := by
  have halive : w.isAlive ⟨3⟩ = true := by
    rw [World.isAlive, harray]
    rfl
  have hitems : w.items ⟨3⟩ = .ok [.object ⟨16⟩] := by
    rw [World.items, World.payload?, World.property?, World.object, harray]
    rfl
  have hinvoke : (MethodBody.array .copy).invoke Stock.natives ⟨3⟩ [] w =
      .done (.list [.object ⟨16⟩]) w := by
    simp only [MethodBody.invoke, ArrayMethod.invoke, Arguments.none, Behaviour.itemsOf,
      bind_apply, lift_ok, read_apply, id_eq, hitems, pure_apply]
  have hcall : Stock.host.dispatch ⟨15⟩ .call [] w = .done (.list [.object ⟨16⟩]) w := by
    rw [(bindsTo_copy hmethod).dispatch_call, Host.callBound, if_pos halive]
    exact hinvoke
  rw [Operation.EndsWith, Operation.answer, bind_apply, hcall]
  rfl

/-- It fails if not. -/
theorem call_copy_raised (hmethod : w.object? ⟨15⟩ = arrayOfOne.object? ⟨15⟩)
    (harray : w.object? ⟨3⟩ = none) :
    (Operation.dispatch ⟨15⟩ .call []).EndsWith Stock.host w
      (.error (.receiverReleased "array.copy")) w := by
  have hreleased : w.isAlive ⟨3⟩ = false := by
    rw [World.isAlive, harray]
    rfl
  have hcall : Stock.host.dispatch ⟨15⟩ .call [] w =
      .raised (.receiverReleased "array.copy") w := by
    rw [(bindsTo_copy hmethod).dispatch_call, Host.callBound_of_released hreleased]
  rw [Operation.EndsWith, Operation.answer, bind_apply, hcall]

end keeper

/-- Nothing else owns the array, so that it is released as soon as its type has
    been declared again. -/
theorem not_kept_array : ¬ keeperRedeclared.Kept [⟨15⟩] ⟨3⟩ :=
  World.not_kept_of_unowned (by decide) (by decide)

/-- Objects are released as soon as nothing keeps them alive in either world. -/
def anyRelease : ReleaseRule := fun _ _ _ _ _ => True

/-- A declared type owns the array that the method is bound to.  If a type of the
    same name is declared, the array is released, and the call fails. -/
theorem call_after_redeclaration :
    ∃ S w w', Interleaved Stock.host anyRelease .initial S
      [.ok (.value (.object ⟨3⟩)), .ok (.ident 12), .ok .nothing,
        .ok (.value (.list [.object ⟨16⟩]))]
      [.ok (.value (.object ⟨3⟩)), .ok (.ident 12), .ok .nothing,
        .error (.receiverReleased "array.copy")] w w' := by
  have hconverts : (Operation.convert (.list [.int 1])).EndsWith Stock.host .initial
      (.ok (.value (.object ⟨3⟩))) arrayOfOne := rfl
  have hgives : Operation.freshIdent.EndsWith Stock.host arrayOfOne (.ok (.ident 12))
      arrayOfOne.freshIdent.2 := rfl
  have hdeclares : (Operation.declareType keeperType).EndsWith Stock.host
      arrayOfOne.freshIdent.2 (.ok .nothing) keeperDeclared := rfl
  have hgives' : Operation.freshIdent.EndsIn Stock.host keeperDeclared
      keeperDeclared.freshIdent.2 := .inl rfl
  have hdeclares' : (Operation.declareType emptyKeeperType).EndsIn Stock.host
      keeperDeclared.freshIdent.2 keeperRedeclared := .inl rfl
  have harray : (Operation.convert (.list [.int 1])).Clear .nothing .initial :=
    ⟨by simp [World.ClearAll, Operation.values, Value.within_list],
      by simp [Operation.objects], by simp [Operation.types]⟩
  have hconverted := (@Interleaved.start Stock.host anyRelease .initial).step _ harray
    (by simp [Operation.values, World.supports_list]) hconverts hconverts
  have hgiven := hconverted.step _ (Operation.clear_of_nothing_given rfl rfl rfl)
    World.supportsAll_nil hgives hgives
  have hdeclared := hgiven.step _ (Operation.clear_of_nothing_given rfl rfl rfl)
    World.supportsAll_nil hdeclares hdeclares
  -- Only the run with insertions goes on here: it redeclares `Keeper` without its shared method.
  have hgiven' := hdeclared.insert _ (.inr rfl)
    (Operation.clear_of_nothing_given rfl rfl rfl) hgives'
  have hdeclared' := hgiven'.insert (.declareType _) (.inl trivial)
    (Operation.clear_of_nothing_given rfl rfl rfl) hdeclares'
  have hreleased := hdeclared'.release [⟨15⟩] [⟨15⟩] (fun _ _ => Iff.rfl) trivial
  have hsize : keeperDeclared.heap.size = 17 := rfl
  refine ⟨_, _, _, hreleased.step (.dispatch ⟨15⟩ .call []) ⟨?_, ?_, ?_⟩ World.supportsAll_nil
    (call_copy_done ?_ ?_) (call_copy_raised ?_ ?_)⟩
  · exact fun v hv => absurd hv List.not_mem_nil
  · refine List.forall_mem_singleton.mpr ⟨?_, ?_⟩
    · rw [World.size_collect, World.size_passOver, World.size_passOver, hsize]
      exact Nat.lt_of_lt_of_le (by decide) (Nat.le_add_right _ _)
    · rintro ((hnothing | ⟨hle, -⟩) | ⟨hle, -⟩)
      · exact hnothing
      · rw [hsize] at hle
        exact absurd hle (by decide)
      · exact absurd (Nat.le_trans (Nat.le_of_eq hsize.symm) hle) (by decide)
  · exact fun T hT => absurd hT List.not_mem_nil
  · rw [World.object?_collect_of_kept (.of_root List.mem_cons_self), World.object?_passOver,
      World.object?_passOver]
    rfl
  -- Without the redeclaration the type `Keeper` still owns the array.
  · rw [World.object?_collect_of_kept, World.object?_passOver, World.object?_passOver]
    · rfl
    · exact .root (World.mem_ownRoots.mpr (.inr (.inl
        ⟨("Keeper", keeperType), List.mem_singleton_self _, List.mem_singleton_self _⟩)))
  · rw [World.object?_collect_of_kept (.of_root List.mem_cons_self)]
    rfl
  · exact World.object?_collect_of_not_kept not_kept_array

end DynamicObjects
