import DynamicObjects.Format
import DynamicObjects.Text.CharClass

/-! # Strings

    A string is an object whose payload is text.  Nothing changes the text of a
    string; all operations give new ones.  Length and positions count characters, only
    the limit of repetition counts bytes. -/

namespace DynamicObjects

namespace Behaviour

def charsOf (this : ObjectId) : Run (List Char) :=
  Run.read (fun w => (Rendering.textOf w this).toList)

def newText (s : String) : Run Value := Run.step (fun w => w.toValue (.text s))

/-! ## Slots -/

def concatenate (natives : Natives) (this : ObjectId) (args : List Value) : Run Value := do
  let other ← Arguments.one Slot.add.name args
  let text ← Run.read (fun w => Rendering.textOf w this)
  let more ← natives.stringify other
  newText (text ++ more)

/-- The number of repetitions: an integer, raw or as an object. -/
def repetitions (w : World) (v : Value) : Except Fault Int64 :=
  match v with
  | .int n => .ok n
  | .object o =>
    if w.isInstanceOf o .integer then
      match w.payload? o with
      | some (.int n) => .ok n
      | _ => .ok 0
    else .error (.repetitionCount (w.kindName v))
  | v => .error (.repetitionCount (w.kindName v))

/-- The greatest number of bytes that a repetition may have. -/
def greatestText : Nat := Nat.pow 2 30

/-- A text several times over; a negative number counts as zero. -/
def repeated (s : String) (count : Int64) : Except Fault String :=
  let n := count.toInt.toNat
  if s.utf8ByteSize * n ≤ greatestText then
    .ok (if s = "" then "" else String.join (List.replicate n s))
  else .error .repetitionTooLong

def repeatText (this : ObjectId) (args : List Value) : Run Value := do
  let v ← Arguments.one Slot.mul.name args
  let w ← Run.read id
  let count ← repetitions w v
  let text ← repeated (Rendering.textOf w this) count
  newText text

/-- Whether a string object has the same characters.  Anything else cannot be compared. -/
def sameCharacters (w : World) (this : ObjectId) (v : Value) : Except Fault Bool :=
  match v with
  | .object o =>
    if w.isInstanceOf o .string then
      .ok (decide ((Rendering.textOf w this).toList = (Rendering.textOf w o).toList))
    else .error (.comparandNotText (w.kindName v))
  | v => .error (.comparandNotText (w.kindName v))

def textGetItem (this : ObjectId) (args : List Value) : Run Value := do
  let key ← Arguments.one Slot.getItem.name args
  let w ← Run.read id
  let index ← w.subscript "string" key
  let cs ← charsOf this
  let place ← Arguments.position cs.length index
  newText (String.ofList ((cs.drop place).take 1))

def textLength (this : ObjectId) (args : List Value) : Run Value := do
  Arguments.none Slot.len.name args
  let cs ← charsOf this
  return Value.ofCount cs.length

/-! ## Methods -/

def stringifyAll (natives : Natives) : List Value → Run (List String)
  | [] => return []
  | v :: rest => do
    let text ← natives.stringify v
    let texts ← stringifyAll natives rest
    return text :: texts

/-- The elements of a value as the elements of a new array. -/
def iterated (v : Value) : Run (List Value) := fun w =>
  match w.toArray? v with
  | some (o, w) => .done (((w.items o).toOption).getD []) w
  | none => .raised (.joinedNotIterable (w.kindName v)) w

end Behaviour

open Behaviour in
def TextMethod.invoke (natives : Natives) (method : TextMethod) (this : ObjectId)
    (args : List Value) : Run Value := do
  let answer (holds : List Char → Bool) : Run Value := do
    Arguments.none method.name args
    let cs ← charsOf this
    return .bool (holds cs)
  match method with
  | .isAlpha => answer (CharClass.allOf CharClass.isAlphabetic)
  | .isDecimal => answer (CharClass.allOf CharClass.isDecimalDigit)
  | .isDigit => answer (CharClass.allOf CharClass.isDigit)
  | .isNumeric => answer (CharClass.allOf CharClass.isNumeric)
  | .isLower => answer CharClass.isLowerText
  | .isUpper => answer CharClass.isUpperText
  | .join =>
    let v ← Arguments.one method.name args
    let items ← iterated v
    let separator ← Run.read (fun w => Rendering.textOf w this)
    let texts ← stringifyAll natives items
    newText (String.intercalate separator texts)
  | .format =>
    let values ← Run.read (fun w => args.map w.unwrap)
    let template ← charsOf this
    let text ← natives.format template values
    newText (String.ofList text)

end DynamicObjects
