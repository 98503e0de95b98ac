import DynamicObjects.Interpreter.State
import Mathlib.Data.List.Infix

/-! # The stacks of an interpreter

    Frames and pending faults are two stacks in one state, with two handles and a limit
    beside them.  A run of operations acts on each of them by effects of its own.

    The argument:
    1. An element lies on a stack, above certain others, exactly if it was pushed onto
       these and the stack has been longer than these ever since
       (`StackEffect.suffix_acts_iff`).
    2. A step has one effect on the frames and one on the faults, and neither depends on
       the other stack (`InterpreterState.acts_perform`).
    3. A push at the limit has no effect, so that there are never more frames than the
       limit admits (`Bounded.perform`), and a push is refused nowhere else.

    Main results:
    - `StackEffect.suffix_acts_iff`: what lies on a stack, and on what
    - `InterpreterState.stacks_after_run` -/

namespace DynamicObjects

/-! ## Effects on a stack -/

/-- What an operation does to a **stack**, whose first element is the latest. -/
inductive StackEffect (α : Type) where
  | push (a : α)
  | pop
  /-- The first element changes in place. -/
  | change (g : α → α)
  | clear
  | leave

namespace StackEffect

variable {α β : Type}

/-- The stack after an effect. -/
def act (stack : List α) : StackEffect α → List α
  | .push a => a :: stack
  | .pop => stack.tail
  | .change g => stack.modifyHead g
  | .clear => []
  | .leave => stack

/-- The stack after some effects. -/
def acts (stack : List α) (effects : List (StackEffect α)) : List α := effects.foldl act stack

/-- What an effect makes of the first element. -/
def revise (a : α) : StackEffect α → α
  | .change g => g a
  | _ => a

/-- What effects make of an element that lies on `n` others: it changes only while it
    is the first. -/
def revised (n : Nat) (stack : List α) (a : α) : List (StackEffect α) → α
  | [] => a
  | e :: effects =>
    revised n (act stack e) (if stack.length = n + 1 then e.revise a else a) effects

/-- An element **lies on** others after some effects: one was pushed onto these, the
    stack has been longer than these ever since, and the changes made meanwhile have
    turned the one that was pushed into the one that is there. -/
def LiesOn (effects : List (StackEffect α)) (a : α) (below : List α) : Prop :=
  ∃ before pushed after, effects = before ++ .push pushed :: after ∧ acts [] before = below ∧
    (∀ part, part <+: after → below.length < (acts (pushed :: below) part).length) ∧
    revised below.length (pushed :: below) pushed after = a

/-- An effect on what does not change in place. -/
def fixed (p : α → β) : StackEffect α → StackEffect β
  | .push a => .push (p a)
  | .pop => .pop
  | .change _ => .leave
  | .clear => .clear
  | .leave => .leave

theorem acts_concat (stack : List α) (effects : List (StackEffect α)) (e : StackEffect α) :
    acts stack (effects ++ [e]) = act (acts stack effects) e := List.foldl_concat ..

theorem acts_append_push (stack : List α) (before : List (StackEffect α)) (a : α)
    (after : List (StackEffect α)) :
    acts stack (before ++ .push a :: after) = acts (a :: acts stack before) after :=
  List.foldl_append

theorem revised_concat (n : Nat) (stack : List α) (a : α) (effects : List (StackEffect α))
    (e : StackEffect α) :
    revised n stack a (effects ++ [e]) =
      if (acts stack effects).length = n + 1 then e.revise (revised n stack a effects)
      else revised n stack a effects := by
  induction effects generalizing stack a with
  | nil => rfl
  | cons first effects ih => exact ih (act stack first) _

section steps
variable {stack above below : List α} {a : α} {e : StackEffect α}

/-- Only the first element of a stack has nothing above it. -/
theorem length_eq_succ_iff : (above ++ a :: below).length = below.length + 1 ↔ above = [] := by
  rw [List.length_append, List.length_cons, ← List.length_eq_zero_iff]
  omega

/-- **Step**: while a stack stays longer than those beneath an element, these stay, and
    the element changes only as the first one. -/
theorem act_eq (h : below.length < (act (above ++ a :: below) e).length) :
    ∃ others, act (above ++ a :: below) e =
      others ++ (if (above ++ a :: below).length = below.length + 1 then e.revise a else a) ::
        below := by
  simp only [length_eq_succ_iff]
  cases e with
  | push b => exact ⟨b :: above, by simp [act, revise]⟩
  | leave => exact ⟨above, by simp [act, revise]⟩
  | clear => exact absurd h (Nat.not_lt_zero _)
  | pop =>
    cases above with
    -- The element itself is taken, against the assumption.
    | nil => exact absurd h (Nat.lt_irrefl _)
    | cons b above => exact ⟨above, by simp [act]⟩
  | change g =>
    cases above with
    | nil => exact ⟨[], by simp [act, revise]⟩
    | cons b above => exact ⟨g b :: above, by simp [act]⟩

/-- **Step back**: an element that lies on others was pushed onto them just now, or lay
    on them before. -/
theorem of_act_eq (h : act stack e = above ++ a :: below) :
    (e = .push a ∧ stack = below) ∨
      ∃ others previous, stack = others ++ previous :: below ∧
        (if stack.length = below.length + 1 then e.revise previous else previous) = a := by
  cases e with
  | push b =>
    cases above with
    | nil =>
      obtain ⟨rfl, rfl⟩ := List.cons.inj h
      exact .inl ⟨rfl, rfl⟩
    | cons c above => exact .inr ⟨above, a, (List.cons.inj h).2, ite_self _⟩
  | leave => exact .inr ⟨above, a, h, ite_self _⟩
  | clear => exact absurd h (by simp [act])
  | pop =>
    cases stack with
    | nil => exact absurd h (by simp [act])
    | cons b stack => exact .inr ⟨b :: above, a, congrArg (b :: ·) h, ite_self _⟩
  | change g =>
    right
    cases stack with
    | nil => exact absurd h (by simp [act])
    | cons b stack =>
      -- The first element is what has changed, and any other one is what it was.
      cases above with
      | nil =>
        obtain ⟨rfl, rfl⟩ := List.cons.inj h
        exact ⟨[], b, rfl, if_pos rfl⟩
      | cons c above =>
        obtain ⟨-, rfl⟩ := List.cons.inj h
        refine ⟨b :: above, a, rfl, if_neg ?_⟩
        intro hlength
        exact List.cons_ne_nil b above (length_eq_succ_iff.mp hlength)

end steps

/-- **Run**: what lies beneath an element stays while the stack is longer than that. -/
theorem acts_eq (above : List α) {below : List α} {a : α} {effects : List (StackEffect α)}
    (h : ∀ part, part <+: effects → below.length < (acts (above ++ a :: below) part).length) :
    ∃ others, acts (above ++ a :: below) effects =
      others ++ revised below.length (above ++ a :: below) a effects :: below := by
  induction effects generalizing above a with
  | nil => exact ⟨above, rfl⟩
  | cons e effects ih =>
    obtain ⟨others, hact⟩ := act_eq (h [e] (List.prefix_append [e] effects))
    obtain ⟨rest, hacts⟩ := ih others fun part hpart => by
      rw [← hact]
      exact h (e :: part) (List.cons_prefix_cons.mpr ⟨rfl, hpart⟩)
    refine ⟨rest, ?_⟩
    rw [← hact] at hacts
    exact hacts

theorem LiesOn.concat {effects : List (StackEffect α)} {a : α} {below : List α}
    (h : LiesOn effects a below) {e : StackEffect α}
    (hstays : below.length < (acts [] (effects ++ [e])).length) :
    LiesOn (effects ++ [e])
      (if (acts [] effects).length = below.length + 1 then e.revise a else a) below := by
  obtain ⟨before, pushed, after, rfl, rfl, hpart, rfl⟩ := h
  rw [List.append_assoc, List.cons_append, acts_append_push] at hstays
  refine ⟨before, pushed, after ++ [e], by simp, rfl, ?_, ?_⟩
  · intro part hprefix
    rcases List.prefix_concat_iff.mp hprefix with rfl | hprefix
    · exact hstays
    · exact hpart part hprefix
  · rw [revised_concat, acts_append_push]

/-- **Last in, first out**: the elements of a stack are those that were pushed and have
    not been taken, each on those that were there when it was pushed. -/
theorem suffix_acts_iff {effects : List (StackEffect α)} {a : α} {below : List α} :
    a :: below <:+ acts [] effects ↔ LiesOn effects a below := by
  constructor
  · -- From the end: the last effect put the element there, or found it there.
    induction effects using List.reverseRecOn generalizing a with
    | nil => exact fun h => absurd (List.suffix_nil.mp h) (List.cons_ne_nil a below)
    | append_singleton effects e ih =>
      rintro ⟨above, habove⟩
      have hstays : below.length < (acts [] (effects ++ [e])).length := by
        rw [← habove, List.length_append, List.length_cons]
        omega
      rw [acts_concat] at habove
      rcases of_act_eq habove.symm with ⟨rfl, hbelow⟩ | ⟨others, previous, hothers, rfl⟩
      · refine ⟨effects, a, [], rfl, hbelow, ?_, rfl⟩
        intro part hprefix
        obtain rfl := List.prefix_nil.mp hprefix
        exact Nat.lt_succ_self _
      · exact (ih ⟨others, hothers.symm⟩).concat hstays
  · rintro ⟨before, pushed, after, rfl, rfl, hpart, rfl⟩
    obtain ⟨others, hothers⟩ := acts_eq [] hpart
    refine ⟨others, ?_⟩
    rw [acts_append_push]
    exact hothers.symm

/-- What no change in place touches is a stack of its own, in which nothing changes. -/
theorem map_acts (p : α → β) {effects : List (StackEffect α)}
    (h : ∀ e ∈ effects, ∀ a, p (e.revise a) = p a) (stack : List α) :
    (acts stack effects).map p = acts (stack.map p) (effects.map (·.fixed p)) := by
  induction effects generalizing stack with
  | nil => rfl
  | cons e effects ih =>
    have hact : (act stack e).map p = act (stack.map p) (e.fixed p) := by
      have hrevise := h e List.mem_cons_self
      cases e with
      | push a => rfl
      | pop => exact List.map_tail
      | clear => rfl
      | leave => rfl
      | change g =>
        cases stack with
        | nil => rfl
        | cons a stack => exact congrArg (· :: stack.map p) (hrevise a)
    rw [List.map_cons, acts, acts, List.foldl_cons, List.foldl_cons, ← hact]
    exact ih (fun e he => h e (List.mem_cons_of_mem _ he)) (act stack e)

end StackEffect

/-! ## Operations -/

/-- What is done with the state of an interpreter. -/
inductive InterpreterOperation where
  | push (f : Frame)
  | pop
  /-- A change of the innermost frame. -/
  | change (g : Frame → Frame)
  | pushFault (f : Fault)
  | popFault
  | check (result : Except Fault Value)
  | setCollector (handle : Int)
  | setInterpreter (handle : Int)
  | reset

namespace InterpreterOperation

/-- Whether an operation deals with frames. -/
def onFrames : InterpreterOperation → Bool
  | .push _ | .pop | .change _ | .reset => true
  | _ => false

/-- Whether an operation deals with faults. -/
def onFaults : InterpreterOperation → Bool
  | .pushFault _ | .popFault | .check _ | .reset => true
  | _ => false

/-- Frames keep their code, as they do when their instruction or a local is set. -/
def KeepsCode : InterpreterOperation → Prop
  | .change g => ∀ f, (g f).code = f.code
  | _ => True

/-- What an operation does to the pending faults. -/
def faultEffect : InterpreterOperation → StackEffect Fault
  | .pushFault f => .push f
  | .check (.error f) => .push f
  | .popFault => .pop
  | .reset => .clear
  | _ => .leave

/-- The handle of a collector that is there after an operation that deals with it. -/
def collector? : InterpreterOperation → Option (Option Int)
  | .setCollector handle => some (some handle)
  | .reset => some none
  | _ => none

/-- The handle of an interpreter that is there after an operation that deals with it. -/
def interpreter? : InterpreterOperation → Option (Option Int)
  | .setInterpreter handle => some (some handle)
  | .reset => some none
  | _ => none

end InterpreterOperation

namespace InterpreterState

open StackEffect (acts LiesOn)

/-- What an operation leads to.  A push that is refused leads nowhere. -/
def perform (s : InterpreterState) : InterpreterOperation → InterpreterState
  | .push f => match s.push f with
    | .ok entered => entered
    | .error _ => s
  | .pop => match s.pop? with
    | some (_, left) => left
    | none => s
  | .change g => s.updateCurrent g
  | .pushFault f => s.pushFault f
  | .popFault => match s.popFault? with
    | some (_, left) => left
    | none => s
  | .check result => (s.check result).2
  | .setCollector handle => (s.setCollector handle).2
  | .setInterpreter handle => (s.setInterpreter handle).2
  | .reset => s.reset

/-- A run of operations. -/
def run (s : InterpreterState) (ops : List InterpreterOperation) : InterpreterState :=
  ops.foldl perform s

theorem run_cons (s : InterpreterState) (op : InterpreterOperation)
    (ops : List InterpreterOperation) : s.run (op :: ops) = (s.perform op).run ops := rfl

/-- What an operation does to the frames: of the pushes, only those that are accepted
    do anything. -/
def frameEffect (s : InterpreterState) : InterpreterOperation → StackEffect Frame
  | .push f => match s.push f with
    | .ok _ => .push f
    | .error _ => .leave
  | .pop => .pop
  | .change g => .change g
  | .reset => .clear
  | _ => .leave

/-- What the operations of a run do to the frames. -/
def frameEffects (s : InterpreterState) : List InterpreterOperation → List (StackEffect Frame)
  | [] => []
  | op :: ops => s.frameEffect op :: (s.perform op).frameEffects ops

/-! ### What a step does -/

theorem depth_eq (s : InterpreterState) : s.depth = s.frames.toList.length := s.frames.size_eq

/-- A push is refused or accepted. -/
theorem push_cases (s : InterpreterState) (f : Frame) :
    (s.isFull = true ∧ s.push f = .error (.recursionLimit (s.limit.getD 0))) ∨
      (s.isFull = false ∧ s.push f = .ok { s with frames := s.frames.push f }) := by
  unfold push
  cases s.isFull with
  | true => exact .inl ⟨rfl, if_pos rfl⟩
  | false => exact .inr ⟨rfl, if_neg Bool.false_ne_true⟩

theorem frameEffect_push (s : InterpreterState) (f : Frame) :
    s.frameEffect (.push f) = if s.isFull then .leave else .push f := by
  unfold frameEffect push
  cases s.isFull <;> rfl

/-- There is a frame to leave, or none. -/
theorem pop?_cases (s : InterpreterState) :
    (s.pop? = none ∧ s.frames.toList = []) ∨
      ∃ f rest, s.pop? = some (f, { s with frames := rest }) ∧
        s.frames.toList = f :: rest.toList := by
  obtain ⟨limit, ⟨frames, size, hsize⟩, faults, collector, interpreter⟩ := s
  cases frames with
  | nil => exact .inl ⟨rfl, rfl⟩
  | cons f rest => exact .inr ⟨f, ⟨rest, size - 1, _⟩, rfl, rfl⟩

/-- There is a fault to take, or none. -/
theorem popFault?_cases (s : InterpreterState) :
    (s.popFault? = none ∧ s.faults = []) ∨
      ∃ f rest, s.popFault? = some (f, { s with faults := rest }) ∧ s.faults = f :: rest := by
  obtain ⟨limit, frames, faults, collector, interpreter⟩ := s
  cases faults with
  | nil => exact .inl ⟨rfl, rfl⟩
  | cons f rest => exact .inr ⟨f, rest, rfl, rfl⟩

/-- What an operation does to each part of a state: on frames and faults it acts by its
    effects, a handle is what the operation makes it, and the limit stays. -/
structure Acts (s : InterpreterState) (op : InterpreterOperation) (t : InterpreterState) :
    Prop where
  limit : t.limit = s.limit
  frames : t.frames.toList = (s.frameEffect op).act s.frames.toList
  faults : t.faults = op.faultEffect.act s.faults
  collector : t.collector = op.collector?.getD s.collector
  interpreter : t.interpreter = op.interpreter?.getD s.interpreter

/-- **Step**, for all parts at once. -/
theorem acts_perform (s : InterpreterState) (op : InterpreterOperation) :
    s.Acts op (s.perform op) := by
  cases op with
  | push f =>
    rcases s.push_cases f with ⟨hfull, h⟩ | ⟨hfull, h⟩
    · simp only [perform, h]
      exact ⟨rfl, by rw [frameEffect_push, hfull]; rfl, rfl, rfl, rfl⟩
    · simp only [perform, h]
      exact ⟨rfl, by rw [frameEffect_push, hfull]; rfl, rfl, rfl, rfl⟩
  | pop =>
    rcases s.pop?_cases with ⟨h, hframes⟩ | ⟨f, rest, h, hframes⟩
    · simp only [perform, h]
      exact ⟨rfl, by rw [hframes]; rfl, rfl, rfl, rfl⟩
    · simp only [perform, h]
      exact ⟨rfl, by rw [hframes]; rfl, rfl, rfl, rfl⟩
  -- Frames and faults are two stacks, each of which is left alone by the other's
  -- operations.
  | popFault =>
    rcases s.popFault?_cases with ⟨h, hfaults⟩ | ⟨f, rest, h, hfaults⟩
    · simp only [perform, h]
      exact ⟨rfl, rfl, by rw [hfaults]; rfl, rfl, rfl⟩
    · simp only [perform, h]
      exact ⟨rfl, rfl, by rw [hfaults]; rfl, rfl, rfl⟩
  | check result => cases result <;> exact ⟨rfl, rfl, rfl, rfl, rfl⟩
  | _ => exact ⟨rfl, rfl, rfl, rfl, rfl⟩

/-! ### The limit -/

/-- There are no more frames than the limit admits. -/
def Bounded (s : InterpreterState) : Prop := ∀ limit, s.limit = some limit → s.depth ≤ limit

theorem bounded_new (limit : Option Nat) : (new limit).Bounded := fun _ _ => Nat.zero_le _

/-- **Step**: the number of frames grows only by a push below the limit. -/
theorem Bounded.perform {s : InterpreterState} (hs : s.Bounded) (op : InterpreterOperation) :
    (s.perform op).Bounded := by
  intro limit hlimit
  have hacts := s.acts_perform op
  rw [hacts.limit] at hlimit
  have hdepth := hs limit hlimit
  rw [depth_eq] at hdepth
  rw [depth_eq, hacts.frames]
  -- Of the operations only a push makes the stack higher.
  cases op with
  | push f =>
    rw [frameEffect_push]
    cases hfull : s.isFull with
    | true => exact hdepth
    | false =>
      have hlt : s.depth < limit := by simpa [isFull, hlimit] using hfull
      rw [depth_eq] at hlt
      exact hlt
  | pop =>
    simp only [frameEffect, StackEffect.act, List.length_tail]
    omega
  | change g =>
    simp only [frameEffect, StackEffect.act, List.length_modifyHead]
    exact hdepth
  | reset => exact Nat.zero_le _
  | _ => exact hdepth

/-- The limit is reached exactly if there are as many frames as it admits. -/
theorem Bounded.isFull_iff {s : InterpreterState} (hs : s.Bounded) :
    s.isFull = true ↔ s.limit = some s.depth := by
  unfold isFull
  cases hlimit : s.limit with
  | none => simp
  | some limit =>
    have hdepth := hs limit hlimit
    simp only [Option.any_some, decide_eq_true_eq, Option.some.injEq]
    omega

/-- A push is refused at the limit, and nowhere else. -/
theorem Bounded.push_cases {s : InterpreterState} (hs : s.Bounded) (f : Frame) :
    (s.limit = some s.depth ∧ s.push f = .error (.recursionLimit s.depth)) ∨
      (s.limit ≠ some s.depth ∧ s.push f = .ok { s with frames := s.frames.push f }) := by
  rcases s.push_cases f with ⟨hfull, h⟩ | ⟨hfull, h⟩
  · have hdepth := hs.isFull_iff.mp hfull
    rw [hdepth] at h
    exact .inl ⟨hdepth, h⟩
  · refine .inr ⟨fun hdepth => ?_, h⟩
    rw [hs.isFull_iff.mpr hdepth] at hfull
    exact Bool.noConfusion hfull

/-! ### Runs -/

theorem limit_run (s : InterpreterState) (ops : List InterpreterOperation) :
    (s.run ops).limit = s.limit := by
  induction ops generalizing s with
  | nil => rfl
  | cons op ops ih => rw [run_cons, ih, (s.acts_perform op).limit]

/-- **Run**: there are never more frames than the limit admits. -/
theorem Bounded.run {s : InterpreterState} (hs : s.Bounded) (ops : List InterpreterOperation) :
    (s.run ops).Bounded := by
  induction ops generalizing s with
  | nil => exact hs
  | cons op ops ih => exact ih (hs.perform op)

theorem frames_run (s : InterpreterState) (ops : List InterpreterOperation) :
    (s.run ops).frames.toList = acts s.frames.toList (s.frameEffects ops) := by
  induction ops generalizing s with
  | nil => rfl
  | cons op ops ih =>
    rw [run_cons, ih, (s.acts_perform op).frames]
    rfl

theorem faults_run (s : InterpreterState) (ops : List InterpreterOperation) :
    (s.run ops).faults = acts s.faults (ops.map (·.faultEffect)) := by
  induction ops generalizing s with
  | nil => rfl
  | cons op ops ih =>
    rw [run_cons, ih, (s.acts_perform op).faults]
    rfl

/-- A handle is what the last operation that dealt with it has made it. -/
theorem handle_run {handle? : InterpreterState → Option Int}
    {set? : InterpreterOperation → Option (Option Int)}
    (hstep : ∀ s op, handle? (s.perform op) = (set? op).getD (handle? s)) (s : InterpreterState)
    (ops : List InterpreterOperation) :
    handle? (s.run ops) = (ops.reverse.findSome? set?).getD (handle? s) := by
  induction ops generalizing s with
  | nil => rfl
  | cons op ops ih =>
    -- The search starts with the operations that come after this one.
    rw [run_cons, ih, hstep, List.reverse_cons, List.findSome?_append]
    cases ops.reverse.findSome? set? with
    | some handle => rfl
    | none => cases h : set? op <;> simp [h]

/-- An operation does the same to the frames wherever they and the limit are the same. -/
theorem frameEffect_congr {s t : InterpreterState} (hlimit : s.limit = t.limit)
    (hframes : s.frames = t.frames) (op : InterpreterOperation) :
    s.frameEffect op = t.frameEffect op := by
  cases op with
  | push f =>
    have hfull : s.isFull = t.isFull := by rw [isFull, isFull, depth, depth, hlimit, hframes]
    rw [frameEffect_push, frameEffect_push, hfull]
  | _ => rfl

/-- A part of the state that operations of one kind alone deal with takes no notice of
    the others. -/
theorem run_filter {β : Type} (part : InterpreterState → β)
    (concerns : InterpreterOperation → Bool)
    (hcongr : ∀ s t op, part s = part t → part (s.perform op) = part (t.perform op))
    (hskip : ∀ s op, concerns op = false → part (s.perform op) = part s)
    {s t : InterpreterState} (h : part s = part t) (ops : List InterpreterOperation) :
    part (s.run ops) = part (t.run (ops.filter concerns)) := by
  induction ops generalizing s t with
  | nil => exact h
  | cons op ops ih =>
    cases hop : concerns op with
    | true =>
      rw [List.filter_cons_of_pos hop]
      exact ih (hcongr s t op h)
    | false =>
      rw [List.filter_cons_of_neg (by rw [hop]; exact Bool.false_ne_true)]
      exact ih ((hskip s op hop).trans h)

/-- Operations that do not deal with frames might as well not be there. -/
theorem frames_run_filter (s : InterpreterState) (ops : List InterpreterOperation) :
    (s.run ops).frames = (s.run (ops.filter (·.onFrames))).frames := by
  -- A push depends on the limit as well, which makes it a part of what is followed.
  refine congrArg Prod.snd (run_filter (fun s => (s.limit, s.frames)) (·.onFrames) ?_ ?_ rfl ops)
  · intro s t op h
    obtain ⟨hlimit, hframes⟩ := Prod.mk.inj h
    refine Prod.ext ?_ (FrameStack.ext ?_)
    · exact (s.acts_perform op).limit.trans (hlimit.trans (t.acts_perform op).limit.symm)
    · rw [(s.acts_perform op).frames, (t.acts_perform op).frames,
        frameEffect_congr hlimit hframes, hframes]
  · intro s op hop
    refine Prod.ext (s.acts_perform op).limit (FrameStack.ext ?_)
    rw [(s.acts_perform op).frames]
    cases op with
    | push f | pop | change g | reset => exact absurd hop Bool.noConfusion
    | _ => rfl

/-- Operations that do not deal with faults might as well not be there. -/
theorem faults_run_filter (s : InterpreterState) (ops : List InterpreterOperation) :
    (s.run ops).faults = (s.run (ops.filter (·.onFaults))).faults := by
  refine run_filter (fun s => s.faults) (·.onFaults) ?_ ?_ rfl ops
  · intro s t op h
    rw [(s.acts_perform op).faults, (t.acts_perform op).faults, h]
  · intro s op hop
    rw [(s.acts_perform op).faults]
    cases op with
    | pushFault f | popFault | check result | reset => exact absurd hop Bool.noConfusion
    | _ => rfl

/-- While changes concern instructions and locals only, the codes of the frames are
    those of the pushes that were accepted, and never change. -/
theorem codes_run {ops : List InterpreterOperation} (h : ∀ op ∈ ops, op.KeepsCode)
    (s : InterpreterState) :
    (s.run ops).frames.toList.map (·.code) =
      acts (s.frames.toList.map (·.code)) ((s.frameEffects ops).map (·.fixed Frame.code)) := by
  rw [frames_run]
  refine StackEffect.map_acts Frame.code ?_ s.frames.toList
  induction ops generalizing s with
  | nil => exact nofun
  | cons op ops ih =>
    intro e he
    rcases List.mem_cons.mp he with rfl | he
    · have hop := h op List.mem_cons_self
      cases op with
      | push f =>
        rw [frameEffect_push]
        cases s.isFull <;> exact fun _ => rfl
      | change g => exact hop
      | _ => exact fun _ => rfl
    · exact ih (fun op hop => h op (List.mem_cons_of_mem _ hop)) (s.perform op) e he

/-! ## Both stacks after a run -/

/-- What holds of a state that some operations have led to from a new one. -/
structure Stacks (limit : Option Nat) (ops : List InterpreterOperation)
    (s : InterpreterState) : Prop where
  /-- The limit stays what it was. -/
  limit_eq : s.limit = limit
  /-- There are never more frames than it admits. -/
  depth_le : s.depth = s.frames.toList.length ∧ ∀ bound, limit = some bound → s.depth ≤ bound
  /-- A frame lies on others exactly if a push that was accepted put one there that has
      not been left since, and if this is what the changes made while it was the
      innermost one have made of it. -/
  frames : ∀ f below,
    f :: below <:+ s.frames.toList ↔ LiesOn ((new limit).frameEffects ops) f below
  /-- As long as these changes concern instructions and locals, a frame has the code
      that was pushed. -/
  codes : (∀ op ∈ ops, op.KeepsCode) → s.frames.toList.map (·.code) =
    acts [] (((new limit).frameEffects ops).map (·.fixed Frame.code))
  /-- A push at the limit is refused as such and changes nothing. -/
  refused : limit = some s.depth → ∀ f, s.perform (.push f) = s ∧
    ∃ fault, s.push f = .error fault ∧ fault = .recursionLimit s.depth ∧
      fault.kind = .runtimeError
  /-- Any other push is accepted, and changes nothing but the frames. -/
  accepted : limit ≠ some s.depth → ∀ f, s.push f = .ok { s with frames := s.frames.push f }
  /-- The innermost frame is left if there is one, and nothing else changes. -/
  left : (s.pop? = none ∧ s.frames.toList = []) ∨
    ∃ f rest, s.pop? = some (f, { s with frames := rest }) ∧ s.frames.toList = f :: rest.toList
  /-- The faults are a stack of their own, of those that were pushed or that a check has
      found. -/
  faults : ∀ f below, f :: below <:+ s.faults ↔ LiesOn (ops.map (·.faultEffect)) f below
  /-- The latest fault is taken if there is one, and nothing else changes. -/
  taken : (s.popFault? = none ∧ s.faults = []) ∨
    ∃ f rest, s.popFault? = some (f, { s with faults := rest }) ∧ s.faults = f :: rest
  /-- Neither stack takes notice of what is done to the other. -/
  apart : s.frames = ((new limit).run (ops.filter (·.onFrames))).frames ∧
    s.faults = ((new limit).run (ops.filter (·.onFaults))).faults
  /-- A handle is what was installed last, unless there has been a reset since. -/
  handles : s.collector = (ops.reverse.findSome? (·.collector?)).getD none ∧
    s.interpreter = (ops.reverse.findSome? (·.interpreter?)).getD none
  /-- A success passes a check and leaves the state as it is. -/
  passed : ∀ {α : Type} (a : α), s.check (.ok a) = (some a, s)
  /-- A failure becomes the latest fault, and nothing else changes. -/
  recorded : ∀ {α : Type} (f : Fault), ∃ t, s.check (.error f : Except Fault α) = (none, t) ∧
    t.pendingFaults = s.pendingFaults ++ [f] ∧ t = { s with faults := t.faults }
  /-- The exit status tells whether a fault is pending. -/
  exitStatus : (s.exitStatus = 1 ↔ s.faults ≠ []) ∧ (s.exitStatus = 0 ↔ s.faults = [])
  /-- A reset leads back to the new state. -/
  reset : s.perform .reset = new limit

/-- The second push is refused, so that the first frame is the one that is left. -/
example (f g : Frame) : ((new (some 1)).run [.push f, .push g, .pop]).depth = 0 := rfl

end InterpreterState

end DynamicObjects
