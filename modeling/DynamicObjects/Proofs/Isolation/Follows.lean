import DynamicObjects.Proofs.Isolation.Beside

/-! # Runs side by side

    `Run.Follows` says of two runs that wherever the first one ends, with a
    result or with a fault, the second one ends in the same way in a world
    beside.  There is one rule for each way to put runs together. -/

namespace DynamicObjects

variable {α β : Type} {S : Apart} {w w' : World}

namespace Run

/-- A run from `w'` **follows** one from `w` that lies beside it: it has the same
    result or the same fault, in a world beside.  The result of the first
    satisfies `Q`. -/
structure Follows (r r' : Run α) (S : Apart) (w w' : World) (Q : World → α → Prop) : Prop where
  done : ∀ {a : α} {w₁ : World}, r w = .done a w₁ →
    ∃ w₁', r' w' = .done a w₁' ∧ w.Onward S w₁ w₁' ∧ Q w₁ a
  raised : ∀ {f : Fault} {w₁ : World}, r w = .raised f w₁ →
    ∃ w₁', r' w' = .raised f w₁' ∧ w.Onward S w₁ w₁'

/-- A run is **oblivious** of what lies beside if it follows itself. -/
abbrev Oblivious (r : Run α) (S : Apart) (w w' : World) (Q : World → α → Prop) : Prop :=
  r.Follows r S w w' Q

section rules
variable {r r' : Run α} {P Q : World → α → Prop} {R : World → β → Prop} {next next' : α → Run β}

theorem follows_of_eq_done {a : α} {w₁ w₁' : World} (hr : r w = .done a w₁)
    (hr' : r' w' = .done a w₁') (honward : w.Onward S w₁ w₁') (ha : Q w₁ a) :
    r.Follows r' S w w' Q where
  done hdone := by
    obtain ⟨rfl, rfl⟩ := Outcome.done.inj (hr.symm.trans hdone)
    exact ⟨w₁', hr', honward, ha⟩
  raised hraised := by
    rw [hr] at hraised
    cases hraised

theorem follows_of_eq_raised {f : Fault} {w₁ w₁' : World} (hr : r w = .raised f w₁)
    (hr' : r' w' = .raised f w₁') (honward : w.Onward S w₁ w₁') : r.Follows r' S w w' Q where
  done hdone := by
    rw [hr] at hdone
    cases hdone
  raised hraised := by
    obtain ⟨rfl, rfl⟩ := Outcome.raised.inj (hr.symm.trans hraised)
    exact ⟨w₁', hr', honward⟩

theorem follows_of_eq_diverged (hr : r w = .diverged) : r.Follows r' S w w' Q where
  done hdone := by
    rw [hr] at hdone
    cases hdone
  raised hraised := by
    rw [hr] at hraised
    cases hraised

theorem follows_pure (hw : w.Beside S w') {a : α} (ha : Q w a) :
    (pure a : Run α).Follows (pure a) S w w' Q :=
  follows_of_eq_done rfl rfl hw.refl ha

theorem follows_raise (hw : w.Beside S w') (f : Fault) :
    (raise f : Run α).Follows (raise f) S w w' Q :=
  follows_of_eq_raised rfl rfl hw.refl

/-- The second runs start in worlds side by side with the result of both first
    ones. -/
theorem Follows.bind (h : r.Follows r' S w w' P)
    (hnext : ∀ a w₁ w₁', w.Onward S w₁ w₁' → P w₁ a → (next a).Follows (next' a) S w₁ w₁' R) :
    (r >>= next).Follows (r' >>= next') S w w' R where
  done hdone := by
    obtain ⟨a, w₁, hr, hdone⟩ := bind_eq_done_iff.mp hdone
    obtain ⟨w₁', hr', honward, ha⟩ := h.done hr
    obtain ⟨w₂', hdone', honward', hb⟩ := (hnext a w₁ w₁' honward ha).done hdone
    exact ⟨w₂', bind_eq_done_iff.mpr ⟨a, w₁', hr', hdone'⟩, honward.trans honward', hb⟩
  raised hraised := by
    rcases bind_eq_raised_iff.mp hraised with hr | ⟨a, w₁, hr, hraised⟩
    · obtain ⟨w₁', hr', honward⟩ := h.raised hr
      exact ⟨w₁', bind_eq_raised_iff.mpr (.inl hr'), honward⟩
    · obtain ⟨w₁', hr', honward, ha⟩ := h.done hr
      obtain ⟨w₂', hraised', honward'⟩ := (hnext a w₁ w₁' honward ha).raised hraised
      exact ⟨w₂', bind_eq_raised_iff.mpr (.inr ⟨a, w₁', hr', hraised'⟩), honward.trans honward'⟩

theorem follows_read_bind {view : World → α}
    (h : (next (view w)).Follows (next' (view w')) S w w' R) :
    (read view >>= next).Follows (read view >>= next') S w w' R :=
  ⟨fun hdone => h.done hdone, fun hraised => h.raised hraised⟩

/-- The rule for runs that start by looking at the whole world. -/
theorem follows_world_bind {next next' : World → Run β}
    (h : (next w).Follows (next' w') S w w' R) :
    (read id >>= next).Follows (read id >>= next') S w w' R :=
  follows_read_bind h

theorem follows_lift (hw : w.Beside S w') {e e' : Except Fault α} (he : e' = e)
    (h : ∀ a, e = .ok a → Q w a) : (liftM e : Run α).Follows (liftM e') S w w' Q := by
  subst he
  cases e' with
  | error f => exact follows_raise hw f
  | ok a => exact follows_pure hw (h a rfl)

theorem follows_lift_bind (hw : w.Beside S w') {e e' : Except Fault α} (he : e' = e)
    (h : ∀ a, e = .ok a → (next a).Follows (next' a) S w w' R) :
    ((liftM e : Run α) >>= next).Follows ((liftM e' : Run α) >>= next') S w w' R := by
  subst he
  cases e' with
  | error f => exact follows_raise hw f
  | ok a => exact h a rfl

theorem follows_modify {change change' : World → World}
    (honward : w.Onward S (change w) (change' w')) :
    (modify change).Follows (modify change') S w w' fun _ _ => True :=
  follows_of_eq_done rfl rfl honward trivial

theorem follows_step {change change' : World → α × World} (hfst : (change' w').1 = (change w).1)
    (honward : w.Onward S (change w).2 (change' w').2) (hQ : Q (change w).2 (change w).1) :
    (step change).Follows (step change') S w w' Q :=
  follows_of_eq_done rfl (by rw [step_apply, hfst]) honward hQ

/-- What comes to an end has to come to the same end beside. -/
theorem follows_ofTerminating (hw : w.Beside S w') {x x' : Option α}
    (hx : ∀ a, x = some a → x' = some a) :
    (ofTerminating x).Follows (ofTerminating x') S w w' fun _ _ => True := by
  cases x with
  | none => exact follows_of_eq_diverged rfl
  | some a =>
    rw [hx a rfl]
    exact follows_pure hw trivial

/-- A fault that is caught leaves worlds side by side. -/
theorem Follows.attempt (h : r.Follows r' S w w' Q) :
    (Run.attempt r).Follows (Run.attempt r') S w w'
      fun w₁ result => ∀ a, result = .ok a → Q w₁ a := by
  cases hr : r w with
  | done a w₁ =>
    obtain ⟨w₁', hr', honward, ha⟩ := h.done hr
    refine follows_of_eq_done (a := .ok a) ?_ ?_ honward fun b hb => ?_
    · rw [Run.attempt, hr]
    · rw [Run.attempt, hr']
    · obtain rfl := Except.ok.inj hb
      exact ha
  | raised f w₁ =>
    obtain ⟨w₁', hr', honward⟩ := h.raised hr
    refine follows_of_eq_done (a := .error f) ?_ ?_ honward fun b hb => ?_
    · rw [Run.attempt, hr]
    · rw [Run.attempt, hr']
    · cases hb
  | diverged => exact follows_of_eq_diverged (by rw [Run.attempt, hr])

theorem deepening_eq_usual {limit : World → Nat} {within : Nat → Run α}
    (hends : within usualDepth w ≠ .diverged) :
    deepening limit within w = within usualDepth w := by
  rw [deepening]
  cases husual : within usualDepth w with
  | diverged => exact absurd husual hends
  | done a w₁ => rfl
  | raised f w₁ => rfl

theorem deepening_eq_limited {limit : World → Nat} {within : Nat → Run α}
    (hdiverged : within usualDepth w = .diverged) :
    deepening limit within w = within (limit w) w := by
  rw [deepening, hdiverged]

/-- If more depth changes no outcome, the outcome at any depth up to the limit
    is that of the whole run. -/
theorem deepening_eq {limit : World → Nat} {within : Nat → Run α}
    (hmono : ∀ {d d' : Nat}, d ≤ d' → within d w = .diverged ∨ within d' w = within d w)
    {d : Nat} (hd : d ≤ usualDepth ∨ d ≤ limit w) (hends : within d w ≠ .diverged) :
    deepening limit within w = within d w := by
  by_cases husual : within usualDepth w = .diverged
  -- If the usual depth does not suffice, `d` is beyond it and so up to the limit.
  · rw [deepening_eq_limited husual]
    rcases hd with hd | hd
    · exact absurd (((hmono hd).resolve_left hends).symm.trans husual) hends
    · exact (hmono hd).resolve_left hends
  · rw [deepening_eq_usual husual]
    rcases Nat.le_total d usualDepth with hle | hle
    · exact (hmono hle).resolve_left hends
    · exact ((hmono hle).resolve_left husual).symm

/-- Runs of limited depth.  The limit may be higher beside, as long as more depth
    changes no outcome. -/
theorem follows_deepening {limit : World → Nat} {within : Nat → Run α}
    (hlimit : limit w ≤ limit w')
    (hmono : ∀ {d d' : Nat}, d ≤ d' → within d w' = .diverged ∨ within d' w' = within d w')
    (h : ∀ depth, (within depth).Follows (within depth) S w w' Q) :
    (deepening limit within).Follows (deepening limit within) S w w' Q := by
  -- The second run may go as deep as the first one has gone, though it need not.
  obtain ⟨d, hd, hrun⟩ : ∃ d, (d ≤ usualDepth ∨ d ≤ limit w') ∧
      deepening limit within w = within d w := by
    by_cases husual : within usualDepth w = .diverged
    · exact ⟨limit w, .inr hlimit, deepening_eq_limited husual⟩
    · exact ⟨usualDepth, .inl (Nat.le_refl _), deepening_eq_usual husual⟩
  constructor
  · intro a w₁ hdone
    obtain ⟨w₁', hdone', hrest⟩ := (h d).done (hrun.symm.trans hdone)
    refine ⟨w₁', ?_, hrest⟩
    rw [deepening_eq hmono hd (by simp [hdone']), hdone']
  · intro f w₁ hraised
    obtain ⟨w₁', hraised', hrest⟩ := (h d).raised (hrun.symm.trans hraised)
    refine ⟨w₁', ?_, hrest⟩
    rw [deepening_eq hmono hd (by simp [hraised']), hraised']

end rules

end Run

end DynamicObjects
