import DynamicObjects.Arguments
import DynamicObjects.Conversion
import DynamicObjects.Equality
import DynamicObjects.Number.Order
import DynamicObjects.Rendering

/-! # Arrays

    An array is an object whose payload is a list of objects.  Every value that is
    stored is converted to an object first.  Searches compare payloads structurally
    and never ask the elements for their own equality.  An operation that fails leaves
    the array as it was. -/

namespace DynamicObjects

namespace Behaviour

/-! ## Access -/

def itemsOf (this : ObjectId) : Run (List Value) := do
  let w ← Run.read id
  w.items this

def storeItems (this : ObjectId) (items : List Value) : Run Unit :=
  Run.modify (fun w => w.setPayload this (.list items))

/-- The object of a value, as a value. -/
def converted (v : Value) : Run Value := Run.step (fun w => w.toValue v)

def arrayGetItem (this : ObjectId) (args : List Value) : Run Value := do
  let key ← Arguments.one Slot.getItem.name args
  let w ← Run.read id
  let index ← w.subscript "array" key
  let items ← w.items this
  let place ← Arguments.position items.length index
  return items.getD place .null

def arraySetItem (this : ObjectId) (args : List Value) : Run Value := do
  let (key, v) ← Arguments.two Slot.setItem.name args
  let w ← Run.read id
  let index ← w.subscript "array" key
  let v ← converted v
  let items ← itemsOf this
  let place ← Arguments.position items.length index
  storeItems this (items.set place v)
  return .null

def arrayLength (this : ObjectId) (args : List Value) : Run Value := do
  Arguments.none Slot.len.name args
  let items ← itemsOf this
  return Value.ofCount items.length

/-! ## Searches -/

/-- The first position of an element that equals the payload of a value. -/
def find (this : ObjectId) (v : Value) : Run (Option Nat) := do
  let w ← Run.read id
  let items ← w.items this
  Run.ofTerminating (w.positionOf items (w.unwrap v))

def occurrencesOf (this : ObjectId) (v : Value) : Run Nat := do
  let w ← Run.read id
  let items ← w.items this
  Run.ofTerminating (w.occurrences items (w.unwrap v))

/-! ## Sorting -/

/-- Elements in the order of their payloads; elements of equal rank keep their order. -/
def sorted (w : World) (items : List Value) : Except Fault (List Value) :=
  match SortOrder.covering (items.map w.unwrap) with
  | .ok order => .ok (items.mergeSort (fun a b => order.le (w.unwrap a) (w.unwrap b)))
  | .error (a, b) => .error (.unorderable (w.kindName a) (w.kindName b))

/-! ## Insertion -/

/-- The position that an insertion in front of an index goes to: negative indices count from
    the end, and all are kept within the array. -/
def insertionPoint (length : Nat) (index : Int64) : Nat :=
  if index.toInt < 0 then (max 0 (length + index.toInt)).toNat
  else min index.toInt.toNat length

def insertionIndex (w : World) (v : Value) : Except Fault Int64 :=
  match w.unwrap v with
  | .int n => .ok n
  | _ => .error .insertPosition

def extension (w : World) (v : Value) : Except Fault (List Value) :=
  match w.unwrap v with
  | .list items => .ok items
  | _ => .error .extensionNotArray

/-! ## Methods -/

end Behaviour

open Behaviour in
def ArrayMethod.invoke (method : ArrayMethod) (this : ObjectId) (args : List Value) :
    Run Value := do
  match method with
  | .append =>
    let v ← Arguments.one method.name args
    let v ← converted v
    let items ← itemsOf this
    storeItems this (items ++ [v])
    return .null
  | .pop =>
    Arguments.none method.name args
    let items ← itemsOf this
    match items.getLast? with
    | some last =>
      storeItems this items.dropLast
      return last
    | none => Run.raise .popFromEmpty
  | .contains =>
    let v ← Arguments.one method.name args
    let found ← find this v
    return .bool found.isSome
  | .count =>
    let v ← Arguments.one method.name args
    let n ← occurrencesOf this v
    return Value.ofCount n
  | .insert =>
    let (key, v) ← Arguments.two method.name args
    let w ← Run.read id
    let index ← insertionIndex w key
    let v ← converted v
    let items ← itemsOf this
    storeItems this (items.insertIdx (insertionPoint items.length index) v)
    return .null
  | .remove =>
    let v ← Arguments.one method.name args
    let found ← find this v
    match found with
    | some place =>
      let items ← itemsOf this
      storeItems this (items.eraseIdx place)
      return .null
    | none => Run.raise .elementNotFound
  | .sort =>
    Arguments.none method.name args
    let w ← Run.read id
    let items ← w.items this
    let items ← sorted w items
    storeItems this items
    return .null
  | .index =>
    let v ← Arguments.one method.name args
    let found ← find this v
    match found with
    | some place => return Value.ofCount place
    | none => return .int (-1)
  | .extend =>
    let v ← Arguments.one method.name args
    let w ← Run.read id
    let more ← extension w v
    let more ← Run.step (fun w => w.toObjects more)
    let items ← itemsOf this
    storeItems this (items ++ more)
    return .null
  | .clear =>
    Arguments.none method.name args
    let _ ← itemsOf this
    storeItems this []
    return .null
  | .reverse =>
    Arguments.none method.name args
    let items ← itemsOf this
    storeItems this items.reverse
    return .null
  | .copy =>
    Arguments.none method.name args
    let items ← itemsOf this
    return .list items

end DynamicObjects
