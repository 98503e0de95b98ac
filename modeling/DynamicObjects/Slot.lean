/-! # Slots

    The behaviours that a type can give its objects.  Each slot has a reserved name
    between double underscores. -/

namespace DynamicObjects

/-- A behaviour that the dispatch of an operation looks for in the type of the receiver. -/
inductive Slot where
  /-- Gives a new object its content. -/
  | init
  | str
  | repr
  /-- Equality with another value. -/
  | eq
  /-- Identity with another value. -/
  | equals
  | getItem
  | setItem
  | getAttr
  | setAttr
  | len
  | call
  | add
  | sub
  | mul
  | div
deriving DecidableEq

namespace Slot

def all : List Slot :=
  [.init, .str, .repr, .eq, .equals, .getItem, .setItem, .getAttr, .setAttr, .len, .call, .add,
   .sub, .mul, .div]

def name : Slot → String
  | .init => "__init__"
  | .str => "__str__"
  | .repr => "__repr__"
  | .eq => "__eq__"
  | .equals => "__equals__"
  | .getItem => "__getitem__"
  | .setItem => "__setitem__"
  | .getAttr => "__getattr__"
  | .setAttr => "__setattr__"
  | .len => "__len__"
  | .call => "__call__"
  | .add => "__add__"
  | .sub => "__sub__"
  | .mul => "__mul__"
  | .div => "__div__"

def ofName? (text : String) : Option Slot := all.find? (fun s => decide (s.name = text))

@[simp] theorem ofName?_name (s : Slot) : ofName? s.name = some s := by cases s <;> decide

end Slot

end DynamicObjects
