import DynamicObjects.Construction

/-! # Hosts and dispatch

    A host supplies the native handlers that types name and the functions that can be
    called.  With a host at hand every operation on objects is defined: it looks up
    the handler in the type of the receiver and runs it.  An operation that a type
    does not support is a fault. -/

namespace DynamicObjects

/-- What a program that embeds the objects supplies. -/
structure Host where
  natives : Natives
  functions : String → List Value → Run Value

/-! ## Equality rules -/

def ObjectId.isObjectOf (o : ObjectId) : Value → Bool
  | .object p => decide (o = p)
  | _ => false

def EqualityRule.decideEqual (rule : EqualityRule) (this : ObjectId) (args : List Value) :
    Run Value := do
  let other ← Arguments.one Slot.eq.name args
  let w ← Run.read id
  match rule with
  | .identity => return .bool (this.isObjectOf other)
  | .isNull =>
    match w.unwrap other with
    | .null => return World.boolValue true
    | _ => return World.boolValue false
  | .structural => do
    let same ← Run.ofTerminating (w.structurallyEqual (.object this) other)
    return World.boolValue same
  | .characters => do
    let same ← Behaviour.sameCharacters w this other
    return World.boolValue same

def MethodBody.invoke (natives : Natives) (body : MethodBody) (this : ObjectId)
    (args : List Value) : Run Value :=
  match body with
  | .array method => method.invoke this args
  | .text method => method.invoke natives this args
  | .native name => natives name this args

namespace Host

variable (host : Host)

/-! ## Calls -/

/-- Call a function.  A bound method needs its receiver to be alive. -/
def callFunction (f : Function) (args : List Value) : Run Value :=
  match f.body with
  | .host => host.functions f.name args
  | .bound receiver qualifiedName method => do
    let alive ← Run.read (fun w => w.isAlive receiver)
    if alive then method.invoke host.natives receiver args
    else Run.raise (.receiverReleased qualifiedName)

def callPayload (this : ObjectId) (args : List Value) : Run Value := do
  let w ← Run.read id
  match w.payload? this with
  | some (.function f) => host.callFunction f args
  | _ => Run.raise (.notCallable (w.typeName this))

/-! ## Dispatch -/

def invoke {s : Slot} (h : Handler s) (this : ObjectId) (args : List Value) : Run Value :=
  match h with
  | .native name => host.natives name this args
  | .construct how => host.natives.runInitializer (.construct how) this args
  | .str how => host.natives.renderHandler how this
  | .repr how => host.natives.renderHandler how this
  | .eq rule => rule.decideEqual this args
  | .identical => do
    let other ← Arguments.one Slot.equals.name args
    return World.boolValue (this.isObjectOf other)
  | .getItem .text => Behaviour.textGetItem this args
  | .getItem .array => Behaviour.arrayGetItem this args
  | .setItem => Behaviour.arraySetItem this args
  | .getAttr store => store.getHandler this args
  | .setAttr store => store.setHandler this args
  | .len .text => Behaviour.textLength this args
  | .len .array => Behaviour.arrayLength this args
  | .call => host.callPayload this args
  | .addNumber => Behaviour.arithmetic .add this args
  | .subNumber => Behaviour.arithmetic .sub this args
  | .mulNumber => Behaviour.arithmetic .mul this args
  | .divNumber => Behaviour.arithmetic .div this args
  | .concatenate => Behaviour.concatenate host.natives this args
  | .repeatText => Behaviour.repeatText this args

/-- Perform the operation of a slot on an object. -/
def dispatch (this : ObjectId) (s : Slot) (args : List Value) : Run Value := do
  let T ← Run.read (fun w => w.typeOf this)
  match T.slots s with
  | some h => host.invoke h this args
  | none => Run.raise (.slotUnsupported s T.name)

theorem dispatch_apply {this : ObjectId} {s : Slot} {h : Handler s} {args : List Value} {w : World}
    (hslot : (w.typeOf this).slots s = some h) :
    host.dispatch this s args w = host.invoke h this args w := by
  simp only [dispatch, Run.bind_apply, Run.read_apply]
  rw [hslot]

def dispatchValue (v : Value) (s : Slot) (args : List Value) : Run Value := do
  let this ← Run.step (fun w => w.toObject v)
  host.dispatch this s args

/-! ## Operations -/

/-- Whether a value equals another by the rule of its type.  Raw values are equal
    structurally, and never to an object.  A rule that fails counts as inequality. -/
def equals (x y : Value) : Run Bool := do
  let w ← Run.read id
  match x, y with
  | .object o, y =>
    match (w.typeOf o).slots .eq with
    | none => return o.isObjectOf y
    | some h => do
      let answer ← Run.attempt (host.invoke h o [y])
      match answer with
      | .error _ => return false
      | .ok v => do
        let w ← Run.read id
        Run.ofTerminating (w.truth v)
  | _, .object _ => return false
  | x, y => Run.ofTerminating (w.structurallyEqual x y)

def stringify (v : Value) : Run String := host.natives.stringify v

def represent (v : Value) : Run String := host.natives.represent v

def getItem (this : ObjectId) (index : Value) : Run Value := host.dispatch this .getItem [index]

def setItem (this : ObjectId) (index v : Value) : Run Value :=
  host.dispatch this .setItem [index, v]

/-- The number of elements of an object, which has to be a natural number. -/
def length (this : ObjectId) : Run Nat := do
  let v ← host.dispatch this .len []
  let w ← Run.read id
  match w.unwrap v with
  | .int n => if 0 ≤ n.toInt then return n.toInt.toNat else Run.raise (.negativeLength n)
  | v => Run.raise (.nonIntegerLength (w.kindName v))

def call (this : ObjectId) (args : List Value) : Run Value := do
  let T ← Run.read (fun w => w.typeOf this)
  match T.slots .call with
  | none => Run.raise (.notCallable T.name)
  | some _ => host.dispatch this .call args

/-- An arithmetic operation with an object on the left. -/
def binary (this : ObjectId) (s : Slot) (other : Value) : Run Value :=
  host.dispatch this s [other]

/-! ## Attributes -/

/-- Attribute names that start like this address the properties themselves. -/
def propertyMark : List Char := ['a', 'p', 'r', 'o', 'p', '_']

/-- The property that an attribute name addresses, if it carries the mark. -/
def markedProperty? (name : String) : Option String :=
  if name.toList.take propertyMark.length = propertyMark then
    some (String.ofList (name.toList.drop propertyMark.length))
  else none

/-- Read an attribute.  A marked name reads a property, or null if there is none. -/
def getAttr (this : ObjectId) (name : String) : Run Value :=
  match markedProperty? name with
  | some property =>
    Run.read (fun w => (w.property? this property).getD (.object World.nullObject))
  | none => host.dispatch this .getAttr [.text name]

/-- Write an attribute.  A marked name writes a property. -/
def setAttr (this : ObjectId) (name : String) (v : Value) : Run Unit :=
  match markedProperty? name with
  | some property => Run.modify (fun w => w.setProperty this property v)
  | none => do
    let _ ← host.dispatch this .setAttr [.text name, v]
    return ()

/-- Call what an attribute holds. -/
def callMethod (this : ObjectId) (name : String) (args : List Value) : Run Value := do
  let callee ← host.getAttr this name
  match callee with
  | .object o => host.call o args
  | .function f => host.callFunction f args
  | v => do
    let w ← Run.read id
    Run.raise (.notCallable (w.kindName v))

end Host

end DynamicObjects
