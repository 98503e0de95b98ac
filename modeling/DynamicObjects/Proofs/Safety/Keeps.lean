import DynamicObjects.Proofs.Safety.WellFormed

/-! # Runs that keep worlds well-formed

    `Run.Keeps` says of a run that it ends safely wherever it ends, with a
    result or with a fault, and that its result fits the world it ends in.
    There is one rule for each way to put runs together. -/

namespace DynamicObjects

namespace Run

variable {α β : Type} {L : World.Locations} {w : World}

/-- A run from `w` **keeps** what is well-formed and sealed, and any result of
    it satisfies `Q`. -/
structure Keeps (r : Run α) (L : World.Locations) (w : World) (Q : World → α → Prop) : Prop where
  done : ∀ {a : α} {w' : World}, r w = .done a w' → w.Safe L w' ∧ Q w' a
  raised : ∀ {f : Fault} {w' : World}, r w = .raised f w' → w.Safe L w'

section rules
variable {r : Run α} {P Q : World → α → Prop} {R : World → β → Prop} {next : α → Run β}

theorem Keeps.mono (h : r.Keeps L w P) (hPQ : ∀ w' a, w.Safe L w' → P w' a → Q w' a) :
    r.Keeps L w Q where
  done hdone := ⟨(h.done hdone).1, hPQ _ _ (h.done hdone).1 (h.done hdone).2⟩
  raised := h.raised

theorem keeps_of_eq_done {a : α} {w' : World} (hr : r w = .done a w') (hsafe : w.Safe L w')
    (ha : Q w' a) : r.Keeps L w Q where
  done hdone := by
    obtain ⟨rfl, rfl⟩ := Outcome.done.inj (hr.symm.trans hdone)
    exact ⟨hsafe, ha⟩
  raised hraised := by
    rw [hr] at hraised
    cases hraised

theorem keeps_of_eq_raised (hw : w.Fits L) {f : Fault} (hr : r w = .raised f w) :
    r.Keeps L w Q where
  done hdone := by
    rw [hr] at hdone
    cases hdone
  raised hraised := by
    obtain ⟨-, rfl⟩ := Outcome.raised.inj (hr.symm.trans hraised)
    exact hw.refl

theorem keeps_pure (hw : w.Fits L) {a : α} (ha : Q w a) : (pure a : Run α).Keeps L w Q :=
  keeps_of_eq_done rfl hw.refl ha

theorem keeps_raise (hw : w.Fits L) (f : Fault) : (raise f : Run α).Keeps L w Q :=
  keeps_of_eq_raised hw rfl

/-- The second run starts in a later world with the result of the first. -/
theorem Keeps.bind (h : r.Keeps L w P)
    (hnext : ∀ a w₁, w.Safe L w₁ → P w₁ a → (next a).Keeps L w₁ R) :
    (r >>= next).Keeps L w R where
  done hdone := by
    obtain ⟨a, w₁, hr, hdone⟩ := bind_eq_done_iff.mp hdone
    obtain ⟨hsafe, ha⟩ := h.done hr
    obtain ⟨hsafe', hb⟩ := (hnext a w₁ hsafe ha).done hdone
    exact ⟨hsafe.trans hsafe', hb⟩
  raised hraised := by
    rcases bind_eq_raised_iff.mp hraised with hr | ⟨a, w₁, hr, hraised⟩
    · exact h.raised hr
    · obtain ⟨hsafe, ha⟩ := h.done hr
      exact hsafe.trans ((hnext a w₁ hsafe ha).raised hraised)

theorem keeps_read_bind {view : World → α} (h : (next (view w)).Keeps L w R) :
    (read view >>= next).Keeps L w R :=
  ⟨fun hdone => h.done hdone, fun hraised => h.raised hraised⟩

/-- The rule for a run that starts by looking at the whole world. -/
theorem keeps_world_bind {next : World → Run β} (h : (next w).Keeps L w R) :
    (read id >>= next).Keeps L w R :=
  keeps_read_bind h

theorem keeps_lift (hw : w.Fits L) {e : Except Fault α} (h : ∀ a, e = .ok a → Q w a) :
    (liftM e : Run α).Keeps L w Q := by
  cases e with
  | error f => exact keeps_raise hw f
  | ok a => exact keeps_pure hw (h a rfl)

theorem keeps_lift_bind (hw : w.Fits L) {e : Except Fault α}
    (h : ∀ a, e = .ok a → (next a).Keeps L w R) : ((liftM e : Run α) >>= next).Keeps L w R := by
  cases e with
  | error f => exact keeps_raise hw f
  | ok a => exact h a rfl

theorem keeps_modify {change : World → World} (hsafe : w.Safe L (change w)) :
    (modify change).Keeps L w fun _ _ => True :=
  keeps_of_eq_done rfl hsafe trivial

theorem keeps_step {change : World → α × World} (hsafe : w.Safe L (change w).2)
    (hQ : Q (change w).2 (change w).1) : (step change).Keeps L w Q :=
  keeps_of_eq_done rfl hsafe hQ

theorem keeps_diverge : (diverge : Run α).Keeps L w Q where
  done hdone := by cases hdone
  raised hraised := by cases hraised

theorem keeps_ofTerminating (hw : w.Fits L) (x : Option α) :
    (ofTerminating x).Keeps L w fun _ _ => True := by
  cases x with
  | none => exact keeps_diverge
  | some a => exact keeps_pure hw trivial

/-- A fault that is caught leaves its world behind. -/
theorem Keeps.attempt (h : r.Keeps L w Q) :
    (Run.attempt r).Keeps L w fun w' result => ∀ a, result = .ok a → Q w' a where
  done {result w'} hdone := by
    rw [Run.attempt] at hdone
    cases hr : r w with
    | done a w₁ =>
      rw [hr] at hdone
      obtain ⟨rfl, rfl⟩ := Outcome.done.inj hdone
      obtain ⟨hsafe, ha⟩ := h.done hr
      refine ⟨hsafe, fun b hb => ?_⟩
      obtain rfl := Except.ok.inj hb
      exact ha
    | raised f w₁ =>
      rw [hr] at hdone
      obtain ⟨rfl, rfl⟩ := Outcome.done.inj hdone
      exact ⟨h.raised hr, fun b hb => by cases hb⟩
    | diverged =>
      rw [hr] at hdone
      cases hdone
  raised hraised := by
    rw [Run.attempt] at hraised
    cases hr : r w <;> rw [hr] at hraised <;> cases hraised

theorem keeps_deepening {limit : World → Nat} {within : Nat → Run α}
    (h : ∀ depth, (within depth).Keeps L w Q) : (deepening limit within).Keeps L w Q := by
  have heq : deepening limit within w = within usualDepth w ∨
      deepening limit within w = within (limit w) w := by
    rw [deepening]
    cases within usualDepth w with
    | done a w₁ => exact .inl rfl
    | raised f w₁ => exact .inl rfl
    | diverged => exact .inr rfl
  rcases heq with heq | heq
  · exact ⟨fun hdone => (h _).done (heq ▸ hdone), fun hraised => (h _).raised (heq ▸ hraised)⟩
  · exact ⟨fun hdone => (h _).done (heq ▸ hdone), fun hraised => (h _).raised (heq ▸ hraised)⟩

end rules

end Run

end DynamicObjects
