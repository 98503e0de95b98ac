import DynamicObjects.Fault
import DynamicObjects.Interpreter.Frame

/-! # Interpreter state

    What an interpreter records while it runs: a stack of frames, which a recursion
    limit may bound, a stack of faults that nobody has handled yet, and two handles
    that only the interpreter understands. -/

namespace DynamicObjects

structure InterpreterState where
  /-- The greatest number of frames, if there is a bound. -/
  limit : Option Nat
  frames : FrameStack
  /-- The pending faults, latest first. -/
  faults : List Fault
  collector : Option Int
  interpreter : Option Int

namespace InterpreterState

/-- The limit of an interpreter for which nothing else is said. -/
def defaultLimit : Nat := 1000

def new (limit : Option Nat) : InterpreterState := ⟨limit, .empty, [], none, none⟩

/-! ## Frames -/

def depth (s : InterpreterState) : Nat := s.frames.size

def isFull (s : InterpreterState) : Bool := s.limit.any (fun limit => decide (limit ≤ s.depth))

/-- Enter a frame, unless the limit is reached. -/
def push (s : InterpreterState) (f : Frame) : Except Fault InterpreterState :=
  if s.isFull then .error (.recursionLimit (s.limit.getD 0))
  else .ok { s with frames := s.frames.push f }

def pop? (s : InterpreterState) : Option (Frame × InterpreterState) :=
  s.frames.pop?.map fun (f, rest) => (f, { s with frames := rest })

def current? (s : InterpreterState) : Option Frame := s.frames.head?

def updateCurrent (s : InterpreterState) (change : Frame → Frame) : InterpreterState :=
  { s with frames := s.frames.modifyHead change }

def setIp (s : InterpreterState) (ip : Nat) : InterpreterState :=
  s.updateCurrent (fun f => { f with ip := ip })

def setLocal (s : InterpreterState) (name : String) (v : Value) : InterpreterState :=
  s.updateCurrent (fun f => { f with locals := f.locals.set name v })

/-- The frames, outermost first. -/
def trace (s : InterpreterState) : List Frame := s.frames.toList.reverse

/-! ## Faults -/

def pushFault (s : InterpreterState) (f : Fault) : InterpreterState :=
  { s with faults := f :: s.faults }

def popFault? (s : InterpreterState) : Option (Fault × InterpreterState) :=
  match s.faults with
  | [] => none
  | f :: rest => some (f, { s with faults := rest })

def lastFault? (s : InterpreterState) : Option Fault := s.faults.head?

/-- The pending faults, oldest first. -/
def pendingFaults (s : InterpreterState) : List Fault := s.faults.reverse

def hasFaults (s : InterpreterState) : Bool := !s.faults.isEmpty

/-- Pass a result through; record a fault. -/
def check {α : Type} (s : InterpreterState) : Except Fault α → Option α × InterpreterState
  | .ok a => (some a, s)
  | .error f => (none, s.pushFault f)

/-- The exit status: one while a fault is pending, zero otherwise. -/
def exitStatus (s : InterpreterState) : Nat := if s.hasFaults then 1 else 0

/-! ## Handles -/

/-- Install the handle of a collector; the previous one is given back. -/
def setCollector (s : InterpreterState) (handle : Int) : Option Int × InterpreterState :=
  (s.collector, { s with collector := some handle })

/-- Install the handle of an interpreter; the previous one is given back. -/
def setInterpreter (s : InterpreterState) (handle : Int) : Option Int × InterpreterState :=
  (s.interpreter, { s with interpreter := some handle })

/-- Forget frames, faults and handles; the limit stays. -/
def reset (s : InterpreterState) : InterpreterState := new s.limit

end InterpreterState

end DynamicObjects
