import DynamicObjects.World

/-! # Runs

    A run starts in a world and either gives a result, or raises a fault, or never
    comes to an end.  In the first two cases there is a world after it: what a failing
    run has changed stays changed. -/

namespace DynamicObjects

/-- How a run ends. -/
inductive Outcome (α : Type) where
  | done (a : α) (w : World)
  | raised (f : Fault) (w : World)
  | diverged

/-- A computation on the world. -/
def Run (α : Type) := World → Outcome α

namespace Run

variable {α β : Type}

protected def pure (a : α) : Run α := fun w => .done a w

protected def bind (r : Run α) (next : α → Run β) : Run β := fun w =>
  match r w with
  | .done a w => next a w
  | .raised f w => .raised f w
  | .diverged => .diverged

instance : Monad Run where
  pure := Run.pure
  bind := Run.bind

@[simp] theorem pure_apply (a : α) (w : World) : (pure a : Run α) w = .done a w := rfl

theorem bind_apply (r : Run α) (next : α → Run β) (w : World) :
    (r >>= next) w =
      match r w with
      | .done a w => next a w
      | .raised f w => .raised f w
      | .diverged => .diverged := rfl

/-- A sequence of runs ends with a result exactly if both parts do. -/
theorem bind_eq_done_iff {r : Run α} {next : α → Run β} {w w' : World} {b : β} :
    (r >>= next) w = .done b w' ↔ ∃ a w₁, r w = .done a w₁ ∧ next a w₁ = .done b w' := by
  rw [bind_apply]
  cases r w with
  | done a w₁ =>
    simp only [Outcome.done.injEq]
    exact ⟨fun h => ⟨a, w₁, ⟨rfl, rfl⟩, h⟩, fun ⟨_, _, ⟨ea, ew⟩, h⟩ => ea ▸ ew ▸ h⟩
  | raised f w₁ => simp
  | diverged => simp

theorem bind_eq_raised_iff {r : Run α} {next : α → Run β} {w w' : World} {f : Fault} :
    (r >>= next) w = .raised f w' ↔
      r w = .raised f w' ∨ ∃ a w₁, r w = .done a w₁ ∧ next a w₁ = .raised f w' := by
  rw [bind_apply]
  cases r w with
  | done a w₁ =>
    simp only [Outcome.done.injEq, reduceCtorEq, false_or]
    exact ⟨fun h => ⟨a, w₁, ⟨rfl, rfl⟩, h⟩, fun ⟨_, _, ⟨ea, ew⟩, h⟩ => ea ▸ ew ▸ h⟩
  | raised g w₁ => simp
  | diverged => simp

theorem bind_eq_diverged_iff {r : Run α} {next : α → Run β} {w : World} :
    (r >>= next) w = .diverged ↔
      r w = .diverged ∨ ∃ a w₁, r w = .done a w₁ ∧ next a w₁ = .diverged := by
  rw [bind_apply]
  cases r w with
  | done a w₁ =>
    simp only [Outcome.done.injEq, reduceCtorEq, false_or]
    exact ⟨fun h => ⟨a, w₁, ⟨rfl, rfl⟩, h⟩, fun ⟨_, _, ⟨ea, ew⟩, h⟩ => ea ▸ ew ▸ h⟩
  | raised f w₁ => simp
  | diverged => simp

instance : LawfulMonad Run :=
  LawfulMonad.mk' Run
    (fun r => funext fun w => by
      change (r >>= fun a => pure a) w = r w
      rw [bind_apply]
      cases r w <;> rfl)
    (fun _ _ => rfl)
    (fun r next last => funext fun w => by
      simp only [bind_apply]
      cases r w <;> rfl)

def raise (f : Fault) : Run α := fun w => .raised f w

def diverge : Run α := fun _ => .diverged

def read (view : World → α) : Run α := fun w => .done (view w) w

def modify (change : World → World) : Run Unit := fun w => .done () (change w)

def step (change : World → α × World) : Run α := fun w =>
  let (a, w) := change w
  .done a w

def ofExcept : Except Fault α → Run α
  | .ok a => pure a
  | .error f => raise f

def ofTerminating : Option α → Run α
  | some a => pure a
  | none => diverge

/-- A run that may fail, with its fault as a result. -/
def attempt (r : Run α) : Run (Except Fault α) := fun w =>
  match r w with
  | .done a w => .done (.ok a) w
  | .raised f w => .done (.error f) w
  | .diverged => .diverged

/-! ## Runs of limited depth -/

/-- The number of levels that a walk is tried with before it is asked how many it may need.
    Next to no walk goes deeper. -/
def usualDepth : Nat := Nat.pow 2 16

/-- A run whose depth is limited, with a limit that it does not reach.  To find such a limit
    takes a look at the whole world, so the usual one is tried first. -/
def deepening (limit : World → Nat) (within : Nat → Run α) : Run α := fun w =>
  match within usualDepth w with
  | .diverged => within (limit w) w
  | outcome => outcome

instance : MonadLift (Except Fault) Run := ⟨Run.ofExcept⟩

@[simp] theorem raise_apply (f : Fault) (w : World) : (raise f : Run α) w = .raised f w := rfl

@[simp] theorem read_apply (view : World → α) (w : World) : read view w = .done (view w) w := rfl

@[simp] theorem modify_apply (change : World → World) (w : World) :
    modify change w = .done () (change w) := rfl

@[simp] theorem step_apply (change : World → α × World) (w : World) :
    step change w = .done (change w).1 (change w).2 := rfl

@[simp] theorem lift_ok (a : α) (w : World) :
    (liftM (Except.ok a : Except Fault α) : Run α) w = .done a w := rfl

@[simp] theorem lift_error (f : Fault) (w : World) :
    (liftM (Except.error f : Except Fault α) : Run α) w = .raised f w := rfl

@[simp] theorem ofTerminating_some (a : α) (w : World) : ofTerminating (some a) w = .done a w := rfl

@[simp] theorem ofTerminating_none (w : World) :
    (ofTerminating none : Run α) w = .diverged := rfl

end Run

end DynamicObjects
