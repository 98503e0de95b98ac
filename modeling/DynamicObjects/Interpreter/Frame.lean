import DynamicObjects.Code
import DynamicObjects.Value

/-! # Frames

    A frame is one activation of a code record, with the values of its local
    variables.  The frames that are active at a time form a stack, of which only the
    innermost one changes. -/

namespace DynamicObjects

/-- One activation of a code record. -/
structure Frame where
  code : Code
  /-- The offset of the current instruction. -/
  ip : Nat
  locals : Bindings Value

namespace Frame

def start (c : Code) : Frame := ⟨c, 0, []⟩

def line (f : Frame) : Nat := f.code.info.lineAt f.ip

end Frame

/-! ## Stacks of frames -/

/-- The frames that have been entered and not left.  Their number is kept beside them, since
    every new frame is checked against a limit. -/
structure FrameStack where
  /-- The frames, innermost first. -/
  toList : List Frame
  size : Nat
  size_eq : size = toList.length

namespace FrameStack

def ofList (frames : List Frame) : FrameStack := ⟨frames, frames.length, rfl⟩

def empty : FrameStack := ofList []

def push (s : FrameStack) (f : Frame) : FrameStack :=
  ⟨f :: s.toList, s.size + 1, by rw [s.size_eq, List.length_cons]⟩

def isEmpty (s : FrameStack) : Bool := s.toList.isEmpty

def head? (s : FrameStack) : Option Frame := s.toList.head?

def pop? : FrameStack → Option (Frame × FrameStack)
  | ⟨[], _, _⟩ => none
  | ⟨f :: rest, size, h⟩ =>
    some (f, ⟨rest, size - 1, by rw [h, List.length_cons, Nat.add_sub_cancel]⟩)

/-- Change the innermost frame in place. -/
def modifyHead (s : FrameStack) (change : Frame → Frame) : FrameStack :=
  ⟨s.toList.modifyHead change, s.size, by rw [List.length_modifyHead, s.size_eq]⟩

/-- A stack is determined by its frames. -/
@[ext] theorem ext {s t : FrameStack} (h : s.toList = t.toList) : s = t := by
  obtain ⟨frames, size, hs⟩ := s
  obtain ⟨others, count, ht⟩ := t
  simp only at h
  subst h hs ht
  rfl

@[simp] theorem toList_empty : empty.toList = [] := rfl

@[simp] theorem toList_push (s : FrameStack) (f : Frame) : (s.push f).toList = f :: s.toList := rfl

@[simp] theorem toList_modifyHead (s : FrameStack) (change : Frame → Frame) :
    (s.modifyHead change).toList = s.toList.modifyHead change := rfl

@[simp] theorem pop?_empty : empty.pop? = none := rfl

@[simp] theorem pop?_push (s : FrameStack) (f : Frame) : (s.push f).pop? = some (f, s) := rfl

end FrameStack

end DynamicObjects
