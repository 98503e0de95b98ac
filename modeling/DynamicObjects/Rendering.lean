import DynamicObjects.Behaviour.Attribute
import DynamicObjects.Equality
import DynamicObjects.ObjectSet
import DynamicObjects.Text.Quoted

/-! # Rendering

    The text and the representation of values.  What an object shows is decided by the
    handlers of its type; an array shows the representations of its elements, so
    rendering follows the elements.  The arrays that are being shown are kept in a
    set, and one that is met again while it is being shown is written `[...]`.  An
    array leaves the set when it has been shown, and also if an element fails to be
    shown. -/

namespace DynamicObjects

/-- The handlers of the host: what a native handler does with its receiver and its
    arguments. -/
abbrev Natives := String → ObjectId → List Value → Run Value

/-- The two forms that a value can be shown in. -/
inductive TextForm where
  | plain
  /-- The representation, which falls back on the text. -/
  | representation
deriving DecidableEq

/-- A handler that shows an object. -/
inductive TextHandler where
  | native (name : String)
  | rendering (how : Rendering)
deriving DecidableEq

/-! ## Finding the handler -/

def Handler.ofStr : Handler .str → TextHandler
  | .native name => .native name
  | .str how => .rendering how

def Handler.ofRepr : Handler .repr → TextHandler
  | .native name => .native name
  | .repr how => .rendering how

/-- The slot and the handler that show the objects of a type in one of the forms. -/
def TextForm.handler? (form : TextForm) (T : TypeDescriptor) : Option (Slot × TextHandler) :=
  let plain := (T.slots .str).map fun h => (Slot.str, h.ofStr)
  match form with
  | .plain => plain
  | .representation =>
    match T.slots .repr with
    | some h => some (.repr, h.ofRepr)
    | none => plain

/-! ## Renderings without elements -/

namespace Rendering

/-- The default text of an object: its type and a number that no other object has. -/
def identityText (w : World) (this : ObjectId) : String :=
  "<AIL " ++ w.typeName this ++ " object at 0x" ++
    String.ofList (Nat.toDigits 16 (this.index + 1)) ++ ">"

def textOf (w : World) (this : ObjectId) : String :=
  match w.payload? this with
  | some (.text s) => s
  | _ => ""

/-- The text of a struct: of an instance, or of the prototype. -/
def structText (w : World) (this : ObjectId) : Except Fault String := do
  let shape ← w.shapeOf this
  if (w.object this).isInstance then return "<struct '" ++ shape.name ++ "' instance>"
  else return "<struct '" ++ shape.name ++ "'>"

/-- The text of a number object; a payload of another kind counts as zero. -/
def numberText (w : World) (this : ObjectId) (how : Rendering) : List Char :=
  match how, w.payload? this with
  | .integer, some (.int n) => integerText n.toInt
  | .integer, _ => ['0']
  | .float, some (.float x) => x.text
  | .float, _ => (Binary64.zero false).text
  | _, some (.complex z) => z.text
  | _, _ => (Complex.ofReal (.zero false)).text

def boolText (w : World) (this : ObjectId) : Option String :=
  match w.payload? this with
  | none => some "false"
  | some v => (w.truth v).map fun b => if b then "true" else "false"

def functionText (w : World) (this : ObjectId) : String :=
  match w.payload? this with
  | some (.function f) => "<function '" ++ f.name ++ "'>"
  | _ => "<function '?'>"

/-- The text of a wrapper: what kind of value it carries. -/
def wrapperText (w : World) (this : ObjectId) : String :=
  "<AIL wrapper of '" ++ ((w.payload? this).map w.kindName).getD "null" ++ "'>"

/-! Strings, numbers and functions show nothing but their payload. -/

section payload
variable {w w' : World} {o p : ObjectId}

theorem textOf_congr (h : w'.payload? p = w.payload? o) : textOf w' p = textOf w o := by
  rw [textOf, textOf, h]

theorem numberText_congr (h : w'.payload? p = w.payload? o) (how : Rendering) :
    numberText w' p how = numberText w o how := by
  unfold numberText
  rw [h]

theorem functionText_congr (h : w'.payload? p = w.payload? o) :
    functionText w' p = functionText w o := by
  rw [functionText, functionText, h]

end payload

/-- Show an object by itself; dots stand for the elements of an array. -/
def alone (this : ObjectId) (how : Rendering) : Run Value := do
  let w ← Run.read id
  match how with
  | .array => return .text "[...]"
  | .identity => return .text (identityText w this)
  | .null => return .text "null"
  | .bool => do
    let text ← Run.ofTerminating (boolText w this)
    return .text text
  | .integer | .float | .complex => return Value.ofChars (numberText w this how)
  | .text => return .text (textOf w this)
  | .quotedText => return Value.ofChars (Quoted.encode (textOf w this).toList)
  | .module => return .text ("<module '" ++ w.moduleName this ++ "'>")
  | .struct => do
    let text ← structText w this
    return .text text
  | .function => return .text (functionText w this)
  | .wrapper => return .text (wrapperText w this)

end Rendering

def World.items (w : World) (this : ObjectId) : Except Fault (List Value) :=
  match w.payload? this with
  | some (.list items) => .ok items
  | _ => .error .noElements

/-! ## Arrays being shown -/

/-- A computation during which some arrays are being shown.  It is given the set of them,
    and gives such a set back when it ends, be it with a fault. -/
def Showing (α : Type) := ObjectSet → Run (Except Fault α × ObjectSet)

namespace Showing

variable {α β : Type}

protected def pure (a : α) : Showing α := fun shown => return (.ok a, shown)

protected def bind (r : Showing α) (next : α → Showing β) : Showing β := fun shown => do
  let (result, shown) ← r shown
  match result with
  | .ok a => next a shown
  | .error f => return (.error f, shown)

instance : Monad Showing where
  pure := Showing.pure
  bind := Showing.bind

def ofRun (r : Run α) : Showing α := fun shown => do
  let result ← Run.attempt r
  return (result, shown)

/-- Show an array.  It is in the set until that has ended, with a result or with a fault. -/
def guarded (this : ObjectId) (body : Showing α) : Showing α := fun shown => do
  let (result, shown) ← body (shown.insert this)
  return (result, shown.erase this)

def during (r : Showing α) (shown : ObjectSet) : Run α := do
  let (result, _) ← r shown
  Run.ofExcept result

end Showing

/-! ## Rendering along the elements -/

def showAll (element : Value → Showing String) : List Value → Showing (List String)
  | [] => return []
  | v :: rest => do
    let text ← element v
    let texts ← showAll element rest
    return text :: texts

namespace Rendering

def bracketed (texts : List String) : Value := .text ("[" ++ String.intercalate ", " texts ++ "]")

/-- Show an object.  The elements of an array that is not being shown already are shown by
    `element`. -/
def run (element : Value → Showing String) (this : ObjectId) (how : Rendering) : Showing Value :=
  fun shown =>
    if how = .array ∧ shown.contains this = false then
      (Showing.guarded this do
        let w ← Showing.ofRun (Run.read id)
        let items ← Showing.ofRun (Run.ofExcept (w.items this))
        let texts ← showAll element items
        return bracketed texts) shown
    else Showing.ofRun (how.alone this) shown

/-- The text that a rendering gave: raw text, or the payload of a string. -/
def expectText (slot : Slot) (v : Value) : Run String := do
  let w ← Run.read id
  match w.unwrap v with
  | .text s => return s
  | v => Run.raise (.nonText slot (w.kindName v))

end Rendering

namespace Natives

variable (natives : Natives)

/-- Show an object to a limited depth. -/
def showObject : Nat → TextForm → ObjectId → Showing String
  | 0, _, _ => Showing.ofRun Run.diverge
  | depth + 1, form, this => do
    let T ← Showing.ofRun (Run.read (fun w => w.typeOf this))
    match form.handler? T with
    | none => Showing.ofRun (Run.raise (.slotUnsupported .str T.name))
    | some (slot, handler) =>
      let element (v : Value) : Showing String := do
        let o ← Showing.ofRun (Run.step (fun w => w.toObject v))
        showObject depth .representation o
      let v ←
        match handler with
        | .native name => Showing.ofRun (natives name this [])
        | .rendering how => how.run element this
      Showing.ofRun (Rendering.expectText slot v)

/-- Show a value to a limited depth.  Raw text is its own text; other raw values are
    converted. -/
def showValue (depth : Nat) (form : TextForm) (v : Value) : Showing String :=
  match form, v with
  | .plain, .text s => return s
  | form, v => do
    let o ← Showing.ofRun (Run.step (fun w => w.toObject v))
    natives.showObject depth form o

end Natives

namespace World

/-- A depth that showing a value never exceeds.  Only lists have elements; each level shows
    an array that is not being shown yet, and between two old ones there are no more new
    ones than the raw lists go deep. -/
def renderingDepth (w : World) (v : Value) : Nat := (w.heap.size + 2) * (w.weight + v.size + 2)

end World

namespace Natives

variable (natives : Natives)

def render (form : TextForm) (v : Value) : Run String :=
  Run.deepening (fun w => w.renderingDepth v) fun depth =>
    (natives.showValue depth form v).during .empty

def stringify (v : Value) : Run String := natives.render .plain v

def represent (v : Value) : Run String := natives.render .representation v

/-- The handler of a rendering that is called directly. -/
def renderHandler (how : Rendering) (this : ObjectId) : Run Value :=
  Run.deepening (fun w => w.renderingDepth (.object this)) fun depth =>
    (how.run (natives.showValue depth .representation) this).during .empty

end Natives

end DynamicObjects
