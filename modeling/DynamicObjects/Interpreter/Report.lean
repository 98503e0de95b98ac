import DynamicObjects.Interpreter.State

/-! # Reports

    The text of a fault that nobody has handled: a traceback over the frames,
    outermost first, and the fault itself on the last line. -/

namespace DynamicObjects

/-- One line of a traceback. -/
structure TraceEntry where
  name : String
  filename : String
  line : Nat
deriving DecidableEq

namespace TraceEntry

def ofFrame (f : Frame) : TraceEntry := ⟨f.code.info.name, f.code.info.filename, f.line⟩

def display (e : TraceEntry) : String :=
  "  File '" ++ e.filename ++ "', line " ++ Fault.decimal e.line ++ ", in " ++ e.name ++ "\n"

end TraceEntry

namespace InterpreterState

def traceback (s : InterpreterState) : List TraceEntry := s.trace.map TraceEntry.ofFrame

/-- The report on a fault; without frames it has no traceback. -/
def report (s : InterpreterState) (f : Fault) : String :=
  if s.frames.isEmpty then f.display
  else
    "Traceback (most recent call last):\n" ++ String.join (s.traceback.map TraceEntry.display) ++
      f.display

end InterpreterState

end DynamicObjects
