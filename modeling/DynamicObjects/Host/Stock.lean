import DynamicObjects.Host

/-! # The stock host

    A small host with a handler for each thing that a handler can do: fail, give raw
    values, give objects, and write properties; and with a few functions. -/

namespace DynamicObjects

namespace Stock

/-! ## Handlers -/

/-- A handler of the stock host. -/
inductive StockHandler where
  | fail | raise | null | zero | one | neg | text | boxtext | boxfalse | argc | store | self | args
  | echo | marker | bump
deriving DecidableEq

namespace StockHandler

def all : List StockHandler :=
  [.fail, .raise, .null, .zero, .one, .neg, .text, .boxtext, .boxfalse, .argc, .store, .self,
   .args, .echo, .marker, .bump]

def name : StockHandler → String
  | .fail => "fail"
  | .raise => "raise"
  | .null => "null"
  | .zero => "zero"
  | .one => "one"
  | .neg => "neg"
  | .text => "text"
  | .boxtext => "boxtext"
  | .boxfalse => "boxfalse"
  | .argc => "argc"
  | .store => "store"
  | .self => "self"
  | .args => "args"
  | .echo => "echo"
  | .marker => "marker"
  | .bump => "bump"

def ofName? (name : String) : Option StockHandler :=
  all.find? (fun h => decide (h.name = name))

/-- The type of the objects that `marker` gives; every call declares a type of its own. -/
def markerType (ident : Nat) : TypeDescriptor :=
  (TypeBuilder.new "marker" .type).build (.declared ident)

/-- One more than the property `n`, or one if it holds no integer. -/
def bumped (w : World) (this : ObjectId) : Int64 :=
  match w.property? this "n" with
  | some (.int n) => n + 1
  | _ => 1

def run (this : ObjectId) (args : List Value) : StockHandler → Run Value
  | .fail => Run.raise (.raised .valueError "bad seed")
  | .raise => Run.raise (.raised (.custom "InputError") "bad input")
  | .null => return .null
  | .zero => return .int 0
  | .one => return .int 1
  | .neg => return .int (-1)
  | .text => return .text "custom"
  | .boxtext => Run.step (fun w => w.toValue (.text "boxed"))
  | .boxfalse => return World.boolValue false
  | .argc => do
    let n := Value.ofCount args.length
    Run.modify (fun w => w.setProperty this "argc" n)
    return n
  | .store => do
    Run.modify (fun w => w.setPayload this (args.headD .null))
    return .null
  | .self => return .object this
  | .args => return .list args
  | .echo => return args.headD .null
  | .marker => Run.step fun w =>
    let (ident, w) := w.freshIdent
    let (o, w) := w.allocate (markerType ident)
    (.object o, w)
  | .bump => do
    let n ← Run.read (fun w => bumped w this)
    Run.modify (fun w => w.setProperty this "n" (.int n))
    return .int n

end StockHandler

def natives : Natives := fun name this args =>
  match StockHandler.ofName? name with
  | some h => h.run this args
  | none => Run.raise (.raised .runtimeError ("no handler '" ++ name ++ "'"))

/-! ## Functions -/

/-- A function of the stock host. -/
inductive StockFunction where
  | double | argc | args | first | text | boom
deriving DecidableEq

namespace StockFunction

def all : List StockFunction := [.double, .argc, .args, .first, .text, .boom]

def name : StockFunction → String
  | .double => "double"
  | .argc => "argc"
  | .args => "args"
  | .first => "first"
  | .text => "text"
  | .boom => "boom"

def ofName? (name : String) : Option StockFunction :=
  all.find? (fun f => decide (f.name = name))

def run (args : List Value) : StockFunction → Run Value
  | .double =>
    match args with
    | [.int n] => return .int (2 * n)
    | _ => Run.raise (.raised .typeError "double() takes an int")
  | .argc => return Value.ofCount args.length
  | .args => return .list args
  | .first => return args.headD .null
  | .text => do
    let s ← natives.stringify (args.headD .null)
    return .text s
  | .boom => Run.raise (.raised .runtimeError "boom")

end StockFunction

def functions (name : String) (args : List Value) : Run Value :=
  match StockFunction.ofName? name with
  | some f => f.run args
  | none => Run.raise (.raised .runtimeError ("no function '" ++ name ++ "'"))

def host : Host := ⟨natives, functions⟩

end Stock

end DynamicObjects
