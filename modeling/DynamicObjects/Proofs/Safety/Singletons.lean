import DynamicObjects.Proofs.Heap.Lifetime
import DynamicObjects.Proofs.Safety.Payload

/-! # What the singletons hold

    Every comparison is answered with the object of true or of false, and what
    such an object counts as is read off its payload.  The three singletons are
    objects like all others, though: their initializers and the writing of
    attributes store into them.

    The argument that nothing else does:
    1. The singletons stay alive, since the world owns them, and keep their types.
    2. These types are plain: two handlers write a payload, `init` and `setAttr`.
       `Operation.stored?` is what an operation stores by way of them.
    3. Everything else leaves the payload alone, as it leaves sealed properties.

    Main results:
    - `World.object?_collect_of_ownRoots`: a release spares what the world owns
    - `Operation.payload?_of_endsIn`: what one operation does to a singleton
    - `singletons_after_run`: what a whole run does to the singletons -/

namespace DynamicObjects

/-! ## Releases -/

namespace World

/-- **Releases** spare what the world itself owns. -/
theorem object?_collect_of_ownRoots {w : World} (roots : List ObjectId) {o : ObjectId}
    (ho : o ∈ w.ownRoots) : (w.collect roots).object? o = w.object? o :=
  object?_collect_of_kept (.root (List.mem_append_left _ ho))

/-! ## Singletons -/

/-- The singletons are alive, and of the types that they have from the start. -/
def HasSingletons (w : World) : Prop :=
  ∀ s ∈ singletons, (w.object? s).map Object.type = (initial.object? s).map Object.type

theorem hasSingletons_initial : initial.HasSingletons := fun _ _ => rfl

section singletons
variable {w w' : World} {s : ObjectId}

/-- The null object is alive and of the type null; the other two are alive and
    truth values. -/
theorem HasSingletons.cases (hw : w.HasSingletons) (hs : s ∈ singletons) :
    (∃ x, w.object? s = some x) ∧
      (s = nullObject ∧ w.typeOf s = .null ∨ s ≠ nullObject ∧ w.typeOf s = .bool) := by
  have htype := hw s hs
  simp only [singletons, List.mem_cons, List.not_mem_nil, or_false] at hs
  rcases hs with rfl | rfl | rfl
  all_goals
    obtain ⟨x, hx, htype⟩ := Option.map_eq_some_iff.mp htype
    refine ⟨⟨x, hx⟩, ?_⟩
    rw [typeOf, object, hx, Option.getD_some, htype]
  · exact .inl ⟨rfl, rfl⟩
  · exact .inr ⟨by decide, rfl⟩
  · exact .inr ⟨by decide, rfl⟩

theorem HasSingletons.alive (hw : w.HasSingletons) (hs : s ∈ singletons) : w.isAlive s = true := by
  obtain ⟨⟨x, hx⟩, -⟩ := hw.cases hs
  rw [isAlive, hx]
  rfl

theorem HasSingletons.index_lt (hw : w.HasSingletons) (hs : s ∈ singletons) :
    s.index < w.heap.size := by
  obtain ⟨⟨x, hx⟩, -⟩ := hw.cases hs
  exact index_lt_of_object?_eq_some hx

theorem HasSingletons.later (hw : w.HasSingletons) (h : w.Later w') : w'.HasSingletons := by
  intro s hs
  rw [h.type_eq (hw.index_lt hs), hw s hs]

theorem HasSingletons.collect (hw : w.HasSingletons) (roots : List ObjectId) :
    (w.collect roots).HasSingletons := by
  intro s hs
  rw [object?_collect_of_ownRoots roots (List.mem_append_left _ hs), hw s hs]

theorem HasSingletons.typeOf_eq (hw : w.HasSingletons) (hs : s ∈ singletons) :
    w.typeOf s = .null ∨ w.typeOf s = .bool :=
  (hw.cases hs).2.imp And.right And.right

theorem HasSingletons.typeOf_nullObject (hw : w.HasSingletons) : w.typeOf nullObject = .null := by
  rcases (hw.cases (s := nullObject) (by decide)).2 with ⟨-, htype⟩ | ⟨hne, -⟩
  · exact htype
  · exact absurd rfl hne

theorem HasSingletons.typeOf_boolObject (hw : w.HasSingletons) (b : Bool) :
    w.typeOf (boolObject b) = .bool := by
  rcases (hw.cases (s := boolObject b) (by cases b <;> decide)).2 with ⟨hnull, -⟩ | ⟨-, htype⟩
  · cases b <;> cases hnull
  · exact htype

/-- Both types are plain, so that nothing but initializers and attribute writes
    stores into the singletons. -/
theorem HasSingletons.isPlain (hw : w.HasSingletons) (hs : s ∈ singletons) :
    (w.typeOf s).IsPlain := by
  rcases hw.typeOf_eq hs with htype | htype
  · rw [htype]
    exact TypeDescriptor.isPlain_null
  · rw [htype]
    exact TypeDescriptor.isPlain_bool

end singletons

/-! ## What initializers store -/

/-- The payload that the initializer of a singleton gives it: to null it is null
    again, to a truth value it is that of the first argument. -/
def reinitialized? (w : World) (s : ObjectId) (args : List Value) : Option Value :=
  if s = nullObject then some .null
  else
    match args with
    | [] => some (.bool false)
    | v :: _ => (w.truth v).map .bool

end World

/-! ## Operations -/

namespace Operation

/-- The value that an operation stores as the payload of a singleton. -/
def stored? (w : World) (s : ObjectId) : Operation → Option Value
  | dispatch o .init args => if o = s then w.reinitialized? s args else none
  | dispatch o .setAttr [.text key, v] | setAttr o key v =>
    if o = s ∧ key = payloadName then some v else none
  | _ => none

section payload
variable {host : Host} {w w' : World} {s : ObjectId} {op : Operation}

/-- The initializer of a singleton stores its new payload, whatever is there; it
    never ends if the truth of its argument cannot be told. -/
theorem run_dispatch_init_singleton (hsingletons : w.HasSingletons) (hs : s ∈ World.singletons)
    (args : List Value) :
    (dispatch s .init args).run host w =
      match w.reinitialized? s args with
      | some v => .done () (w.setPayload s v)
      | none => .diverged := by
  unfold World.reinitialized?
  obtain ⟨-, ⟨hnull, htype⟩ | ⟨hnull, htype⟩⟩ := hsingletons.cases hs
  · rw [run_dispatch_init (by rw [htype]; rfl), if_pos hnull]
    rfl
  · rw [run_dispatch_init (by rw [htype]; rfl), if_neg hnull]
    cases args with
    | nil => rfl
    | cons v rest =>
      simp only [Initializer.run, Run.bind_apply, Run.read_apply, id_eq]
      cases w.truth v <;> rfl

/-- **Initializers** of singletons override the payload. -/
theorem payload?_of_endsIn_init (hsingletons : w.HasSingletons) (hs : s ∈ World.singletons)
    {args : List Value} (hends : (dispatch s .init args).EndsIn host w w') :
    w'.payload? s = (w.reinitialized? s args).or (w.payload? s) := by
  rw [EndsIn, run_dispatch_init_singleton hsingletons hs] at hends
  cases hstored : w.reinitialized? s args with
  | none =>
    rw [hstored] at hends
    rcases hends with h | ⟨f, h⟩ <;> cases h
  | some v =>
    rw [hstored] at hends
    obtain rfl : w' = w.setPayload s v := by
      rcases hends with h | ⟨f, h⟩ <;> cases h
      rfl
    exact World.property?_setProperty_self w (hsingletons.alive hs) payloadName v

/-- But for its initializer, an operation stores what it assigns as an attribute. -/
theorem stored?_eq_assigned? (hinit : ∀ args, op ≠ dispatch s .init args) :
    op.stored? w s = op.assigned? s := by
  unfold stored? assigned?
  split
  · next o args =>
    refine if_neg fun ho => ?_
    subst ho
    exact hinit args rfl
  · rfl
  · rfl
  · next hinits hdispatch hset =>
    split
    · next o key v => exact absurd rfl (hdispatch o key v)
    · next o key v => exact absurd rfl (hset o key v)
    · rfl

/-- **Step**: an operation that does not bypass the handlers leaves the payload
    of a singleton as it is or as it stores it. -/
theorem payload?_of_endsIn (hhost : host.Respects (World.only s payloadName)) (hw : w.WellFormed)
    (hsingletons : w.HasSingletons) (hs : s ∈ World.singletons)
    (hspares : ¬ op.Bypasses s payloadName) (hvalues : w.SupportsAll op.values)
    (hends : op.EndsIn host w w') : w'.payload? s = (op.stored? w s).or (w.payload? s) := by
  by_cases hinit : ∃ args, op = dispatch s .init args
  · obtain ⟨args, rfl⟩ := hinit
    have hstored : (dispatch s .init args).stored? w s = w.reinitialized? s args := if_pos rfl
    rw [hstored]
    exact payload?_of_endsIn_init hsingletons hs hends
  · rw [stored?_eq_assigned? fun args h => hinit ⟨args, h⟩]
    exact (payload?_of_endsIn_plain hhost hw (hsingletons.isPlain hs) (hsingletons.alive hs) hspares
      hvalues hends).resolve_left hinit

end payload

end Operation

/-! ## Runs -/

/-- A **run** from the start that never writes the payload of a singleton past
    its handlers: what has been stored into each singleton last, and where the
    run leads to. -/
inductive SparingRun (host : Host) : (ObjectId → Option Value) → World → Prop where
  | start : SparingRun host (fun _ => none) World.initial
  | step {last : ObjectId → Option Value} {w w' : World} (h : SparingRun host last w)
      (op : Operation) (hspares : ∀ s ∈ World.singletons, ¬ op.Bypasses s payloadName)
      (hvalues : w.SupportsAll op.values) (hends : op.EndsIn host w w') :
      SparingRun host (fun s => (op.stored? w s).or (last s)) w'
  | collect {last : ObjectId → Option Value} {w : World} (h : SparingRun host last w)
      (roots : List ObjectId) : SparingRun host last (w.collect roots)

section runs
variable {host : Host} {w : World} {last : ObjectId → Option Value}

/-- The invariant of such a run. -/
theorem SparingRun.invariant (hwell : host.Respects World.unsealed)
    (hhost : ∀ s ∈ World.singletons, host.Respects (World.only s payloadName))
    (h : SparingRun host last w) :
    w.WellFormed ∧ w.HasSingletons ∧
      ∀ s ∈ World.singletons, w.payload? s = (last s).or (World.initial.payload? s) := by
  induction h with
  | start => exact ⟨World.wellFormed_initial, World.hasSingletons_initial, fun _ _ => rfl⟩
  | @step last w w' _ op hspares hvalues hends ih =>
    obtain ⟨hw, hsingletons, hpayload⟩ := ih
    have hsafe := Operation.safe_of_endsIn hwell hw.fits hvalues (fun _ _ _ h => h) hends
    refine ⟨hsafe.fits.wellFormed, hsingletons.later hsafe.later, fun s hs => ?_⟩
    rw [Operation.payload?_of_endsIn (hhost s hs) hw hsingletons hs (hspares s hs) hvalues hends,
      hpayload s hs, Option.or_assoc]
  | @collect last w _ roots ih =>
    obtain ⟨hw, hsingletons, hpayload⟩ := ih
    refine ⟨hw.collect roots, hsingletons.collect roots, fun s hs => ?_⟩
    rw [← hpayload s hs, World.payload?, World.payload?, World.property?, World.property?,
      World.object, World.object,
      World.object?_collect_of_ownRoots roots (List.mem_append_left _ hs)]

end runs

/-! ## Meaning of the answers -/

namespace World

/-- The singletons hold what they hold from the start. -/
def SingletonsIntact (w : World) : Prop := ∀ s ∈ singletons, w.payload? s = initial.payload? s

/-- What only grows leaves the singletons as they are. -/
theorem SingletonsIntact.grows {w w' : World} (hintact : w.SingletonsIntact)
    (hw : w.HasSingletons) (h : w.Grows w') : w'.SingletonsIntact := by
  intro s hs
  rw [payload?, h.property?_eq (hw.index_lt hs)]
  exact hintact s hs

/-- As long as they do, an answer counts as what it was given for. -/
theorem SingletonsIntact.truth_boolValue {w : World} (h : w.SingletonsIntact) (b : Bool) :
    w.truth (boolValue b) = some b := by
  have hpayload : w.payload? (boolObject b) = some (.bool b) := by
    cases b
    · exact h falseObject (by decide)
    · exact h trueObject (by decide)
  simp [truth, boolValue, truthWithin, hpayload, truthOfRaw]

end World

/-- **Singletons** hold what has been stored into them last, and what they held
    from the start if nothing has.  So they are intact, and comparisons mean what
    they say, unless an initializer or an attribute write stores another value. -/
theorem singletons_after_run {host : Host} {w : World} {last : ObjectId → Option Value}
    (hwell : host.Respects World.unsealed)
    (hhost : ∀ s ∈ World.singletons, host.Respects (World.only s payloadName))
    (hrun : SparingRun host last w) :
    (∀ s ∈ World.singletons, w.payload? s = (last s).or (World.initial.payload? s)) ∧
      (w.SingletonsIntact ↔
        ∀ s ∈ World.singletons, ∀ v, last s = some v → World.initial.payload? s = some v) ∧
      (w.SingletonsIntact → ∀ b, w.truth (World.boolValue b) = some b) := by
  obtain ⟨-, -, hpayload⟩ := hrun.invariant hwell hhost
  refine ⟨hpayload, ?_, fun h => h.truth_boolValue⟩
  refine forall₂_congr fun s hs => ?_
  rw [hpayload s hs]
  cases last s with
  | none => simp
  | some v => simp [eq_comm]

/-! ## Truth initialized anew -/

/-- Two integers of the same value, and then the initializer of truth, called
    without arguments. -/
def truthInitialized : World :=
  ((World.initial.toObject (.int 1)).2.toObject (.int 1)).2.setPayload World.trueObject
    (.bool false)

theorem sparingRun_truthInitialized :
    ∃ last, SparingRun Stock.host last truthInitialized ∧
      last World.trueObject = some (.bool false) := by
  have hint : ∀ w : World, w.SupportsAll [.int 1] := by simp
  have hstart : SparingRun Stock.host (fun _ => none) World.initial := .start
  have hfirst := hstart.step (.convert (.int 1)) (fun _ _ h => h) (hint _) (.inl rfl)
  have hsecond := hfirst.step (.convert (.int 1)) (fun _ _ h => h) (hint _) (.inl rfl)
  have hrun := hsecond.step (.dispatch World.trueObject .init []) (fun _ _ h => h)
    World.supportsAll_nil (.inl rfl)
  exact ⟨_, hrun, rfl⟩

/-- Truth is no longer intact then. -/
theorem singletons_not_intact :
    ∃ last, SparingRun Stock.host last truthInitialized ∧
      truthInitialized.payload? World.trueObject = some (.bool false) ∧
      ¬ truthInitialized.SingletonsIntact := by
  obtain ⟨last, hrun, hlast⟩ := sparingRun_truthInitialized
  obtain ⟨hpayload, hintact, -⟩ :=
    singletons_after_run Stock.host_respects (fun _ _ => Stock.host_respects) hrun
  have hstored := hpayload World.trueObject (by decide)
  rw [hlast, Option.some_or] at hstored
  refine ⟨last, hrun, hstored, fun h => ?_⟩
  have hsame := hintact.mp h World.trueObject (by decide) _ hlast
  cases hsame

/-- After that a comparison of the two integers, which are equal, says no: the
    answer is the object of truth, but it counts as false. -/
theorem equals_truthInitialized :
    (∃ last, SparingRun Stock.host last truthInitialized) ∧
      truthInitialized.payload? ⟨3⟩ = some (.int 1) ∧
      truthInitialized.payload? ⟨4⟩ = some (.int 1) ∧
      Stock.host.dispatch ⟨3⟩ .eq [.object ⟨4⟩] truthInitialized =
        .done (World.boolValue true) truthInitialized ∧
      truthInitialized.payload? World.trueObject = some (.bool false) ∧
      Stock.host.equals (.object ⟨3⟩) (.object ⟨4⟩) truthInitialized =
        .done false truthInitialized :=
  ⟨sparingRun_truthInitialized.imp fun _ h => h.1, rfl, rfl, rfl, rfl, rfl⟩

end DynamicObjects
