import DynamicObjects.Catalogue
import DynamicObjects.Host
import DynamicObjects.Interpreter.Report

/-! # The command line

    The command inspects the builtin modules: it lists them, shows one of them, or
    prints what a dotted path of attributes leads to.  What it writes and how it
    ends is a function of its arguments.

    The system hands arguments over as bytes.  They are read as text before
    anything else is done, and bytes that are no text end the program. -/

namespace DynamicObjects

namespace CommandLine

/-! ## Arguments -/

inductive Command where
  | help
  | modules
  | show (module : String)
  | get (module path : String)
deriving DecidableEq

/-- Why the arguments ask for nothing. -/
inductive UsageError where
  | usage (text : String)
  | unknownCommand (name : String)
deriving DecidableEq

def UsageError.message : UsageError → String
  | .usage text => "usage: " ++ text
  | .unknownCommand name => "unknown command '" ++ name ++ "'"

def parse : List String → Except UsageError Command
  | [] => .ok .help
  | command :: rest =>
    if command = "modules" then .ok .modules
    else if command = "show" then
      match rest with
      | [module] => .ok (.show module)
      | _ => .error (.usage "ail show <module>")
    else if command = "get" then
      match rest with
      | [module, path] => .ok (.get module path)
      | _ => .error (.usage "ail get <module> <attr>[.<attr>...]")
    else if command = "help" ∨ command = "--help" ∨ command = "-h" then .ok .help
    else .error (.unknownCommand command)

def helpLines : List String :=
  ["AIL runtime",
   "",
   "Usage: ail <command> [options]",
   "",
   "Commands:",
   "  modules                      List the builtin modules",
   "  show <module>                Print a builtin module's namespace",
   "  get <module> <attr>[.<attr>] Print one attribute",
   "  help                         Show this help message",
   "",
   "Environment:",
   "  RUST_LOG=<filter>            Enable tracing (e.g. ail_object=trace)",
   "  AIL_LOG_TREE=1               Render spans as a tree"]

/-! ## Printing -/

/-- A run that prints lines as it goes on: a fault leaves those before it printed. -/
def Printing (α : Type) := World → List String × Outcome α

namespace Printing
variable {α β : Type}

protected def pure (a : α) : Printing α := fun w => ([], .done a w)

protected def bind (p : Printing α) (next : α → Printing β) : Printing β := fun w =>
  match p w with
  | (lines, .done a w) =>
    let (more, outcome) := next a w
    (lines ++ more, outcome)
  | (lines, .raised f w) => (lines, .raised f w)
  | (lines, .diverged) => (lines, .diverged)

instance : Monad Printing where
  pure := Printing.pure
  bind := Printing.bind

instance : MonadLift Run Printing := ⟨fun r w => ([], r w)⟩

def print (lines : List String) : Printing Unit := fun w => (lines, .done () w)

end Printing

/-! ## Commands -/

/-- Print a line for each attribute of a module. -/
def showAttributes (host : Host) (this : ObjectId) : List String → Printing Unit
  | [] => return ()
  | name :: rest => do
    let v ← host.getAttr this name
    let text ← host.represent v
    Printing.print ["  " ++ name ++ " = " ++ text]
    showAttributes host this rest

def showModule (host : Host) (module : String) : Printing Unit := do
  let o ← Catalogue.load host.natives module
  let title ← host.stringify (.object o)
  Printing.print [title]
  let names ← Run.read (fun w => w.moduleAttributes o)
  showAttributes host o names

/-- Follow attributes from a value on; a raw value on the way becomes an object. -/
def follow (host : Host) (v : Value) : List String → Run Value
  | [] => return v
  | name :: rest => do
    let o ← Run.step (fun w => w.toObject v)
    let v ← host.getAttr o name
    follow host v rest

/-- Print what a dotted path leads to. -/
def getPath (host : Host) (module path : String) : Printing Unit := do
  let o ← Catalogue.load host.natives module
  let v ← follow host (.object o) (path.splitOn ".")
  let text ← host.stringify v
  Printing.print [text]

def Command.perform (host : Host) : Command → Printing Unit
  | .help => Printing.print helpLines
  | .modules => Printing.print Catalogue.names
  | .show module => showModule host module
  | .get module path => getPath host module path

/-! ## The whole program -/

/-- What a run of the program writes, and the status it ends with. -/
structure Output where
  status : Nat
  stdout : String
  stderr : String
deriving DecidableEq

def unlines (lines : List String) : String := String.join (lines.map (· ++ "\n"))

/-- The interpreter while a command runs: one frame, that of the command itself. -/
def mainState : InterpreterState :=
  let (main, _) := Code.build #[] { CodeInfo.named "<main>" "<ail>" with isMain := true } []
  { InterpreterState.new (some InterpreterState.defaultLimit) with
    frames := .ofList [Frame.start main] }

/-- Wrong arguments are reported together with the help text, a fault with a
    traceback. -/
def run (host : Host) (args : List String) : Output :=
  match parse args with
  | .error e => ⟨1, unlines helpLines, unlines ["error: " ++ e.message]⟩
  | .ok command =>
    match command.perform host World.initial with
    | (lines, .done _ _) => ⟨mainState.exitStatus, unlines lines, ""⟩
    | (lines, .raised f _) =>
      ⟨(mainState.pushFault f).exitStatus, unlines lines, unlines [mainState.report f]⟩
    | (lines, .diverged) => ⟨1, unlines lines, unlines ["error: no result"]⟩

/-- How the program ends: it exits, or it panics at an argument that is no text, by
    which it writes a report on the argument to the standard error and nothing else. -/
inductive Ending where
  | exits (output : Output)
  | panics (argument : ByteArray)

namespace Ending

def status : Ending → Nat
  | .exits output => output.status
  | .panics _ => 101

def stdout : Ending → String
  | .exits output => output.stdout
  | .panics _ => ""

/-- Whether something is written to the standard error. -/
def reports : Ending → Bool
  | .exits output => output.stderr != ""
  | .panics _ => true

end Ending

/-- Read arguments as text, up to the first that is none. -/
def decode : List ByteArray → Except ByteArray (List String)
  | [] => .ok []
  | argument :: rest =>
    match String.fromUTF8? argument with
    | some text => (decode rest).map (text :: ·)
    | none => .error argument

/-- The whole program, by its argument vector.  The first argument is the name that
    it has been called by. -/
def start (host : Host) (arguments : List ByteArray) : Ending :=
  match decode arguments with
  | .ok texts => .exits (run host texts.tail)
  | .error argument => .panics argument

end CommandLine

end DynamicObjects
