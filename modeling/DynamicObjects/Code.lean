import DynamicObjects.Number.Printing
import DynamicObjects.Text.Escaped

/-! # Code records

    A code record describes one compiled unit: its constants, its names, its
    instructions and the source lines they come from.  Records never change, with one
    exception: the cells of a closure, which tie its free names to enclosing units,
    are filled in once after the record was made.  So a record only names its cells,
    and a `CellStore` holds what has been filled in.

    A record may occur among the constants of others.  Equality of records compares
    everything, nested records and filled cells included. -/

namespace DynamicObjects

/-! ## Closure cells -/

/-- A name of an enclosing unit that a closure uses. -/
structure ClosureCell where
  name : String
  /-- How many units outward it lives; the parent is one. -/
  depth : Nat
deriving DecidableEq

/-- The place where the cells of one record are kept. -/
structure CellId where
  index : Nat
deriving DecidableEq

/-- The cells of all records; those of a record are absent until they are filled in. -/
abbrev CellStore := Array (Option (List ClosureCell))

namespace CellStore

def cells? (store : CellStore) (c : CellId) : Option (List ClosureCell) := (store[c.index]?).join

def add (store : CellStore) (cells : Option (List ClosureCell)) : CellId × CellStore :=
  (⟨store.size⟩, store.push cells)

def fill (store : CellStore) (c : CellId) (cells : List ClosureCell) : CellStore :=
  store.modify c.index (fun _ => some cells)

@[simp] theorem size_add (store : CellStore) (cells : Option (List ClosureCell)) :
    (store.add cells).2.size = store.size + 1 := Array.size_push _

@[simp] theorem size_fill (store : CellStore) (c : CellId) (cells : List ClosureCell) :
    (store.fill c cells).size = store.size := Array.size_modify

@[simp] theorem cells?_add_self (store : CellStore) (cells : Option (List ClosureCell)) :
    (store.add cells).2.cells? (store.add cells).1 = cells := by
  simp only [cells?, add, Array.getElem?_push_size, Option.join_some]

/-- A new place leaves the others alone. -/
theorem cells?_add_old {store : CellStore} {c : CellId} (h : c.index < store.size)
    (cells : Option (List ClosureCell)) : (store.add cells).2.cells? c = store.cells? c := by
  simp only [cells?, add, Array.getElem?_push, if_neg (Nat.ne_of_lt h)]

theorem cells?_fill_self {store : CellStore} {c : CellId} (h : c.index < store.size)
    (cells : List ClosureCell) : (store.fill c cells).cells? c = some cells := by
  simp only [cells?, fill, Array.getElem?_modify, ↓reduceIte, Array.getElem?_eq_getElem h,
    Option.map_some, Option.join_some]

@[simp] theorem cells?_fill_ne (store : CellStore) {c d : CellId} (ne : d ≠ c)
    (cells : List ClosureCell) : (store.fill c cells).cells? d = store.cells? d := by
  have index_ne : c.index ≠ d.index := fun e => ne (by cases c; cases d; simp_all)
  simp only [cells?, fill, Array.getElem?_modify, if_neg index_ne]

end CellStore

inductive ClosureFault where
  | notAClosure (name : String)
  /-- The cells have been filled in before. -/
  | alreadyPopulated (name : String)
deriving DecidableEq

def ClosureFault.message : ClosureFault → String
  | .notAClosure name => "code object '" ++ name ++ "' is not a closure"
  | .alreadyPopulated name => "closure cells of '" ++ name ++ "' are already populated"

/-! ## Records -/

def nameSet (names : List String) : List String :=
  (names.mergeSort (fun a b => decide (a ≤ b))).eraseDups

/-- What a record says about its unit, apart from its constants. -/
structure CodeInfo where
  name : String
  filename : String
  varnames : List String
  bytecode : List UInt8
  firstLine : Nat
  /-- Line offsets, as the compiler left them. -/
  lineOffsets : List Nat
  /-- The source line of each instruction. -/
  lines : List Nat
  /-- The number of parameters of a function; other units have none. -/
  paramCount : Option Nat
  isClosure : Bool
  isMain : Bool
  /-- The names that the unit takes from the outermost level. -/
  globals : List String
  /-- The names that the unit takes from enclosing units. -/
  nonlocals : List String
  /-- The parameter that takes all further arguments. -/
  varArg : Option String
deriving DecidableEq

def CodeInfo.named (name filename : String) : CodeInfo where
  name := name
  filename := filename
  varnames := []
  bytecode := []
  firstLine := 1
  lineOffsets := []
  lines := []
  paramCount := none
  isClosure := false
  isMain := false
  globals := []
  nonlocals := []
  varArg := none

/-- The source line of an instruction; beyond the table it is the first line of the unit. -/
def CodeInfo.lineAt (info : CodeInfo) (offset : Nat) : Nat :=
  info.lines.getD offset info.firstLine

def CodeInfo.isFunction (info : CodeInfo) : Bool := info.paramCount.isSome

def CodeInfo.display (info : CodeInfo) : String := "<AIL CodeObject '" ++ info.name ++ "'>"

inductive Constant where
  | null
  | bool (b : Bool)
  | int (n : Int64)
  | float (x : Binary64)
  | text (s : String)
  | code (info : CodeInfo) (cell : CellId) (constants : List Constant)

/-- A code record. -/
structure Code where
  info : CodeInfo
  cell : CellId
  constants : List Constant

namespace Constant

def ofCode (c : Code) : Constant := .code c.info c.cell c.constants

def kindName : Constant → String
  | .null => "null"
  | .bool _ => "bool"
  | .int _ => "int"
  | .float _ => "float"
  | .text _ => "str"
  | .code .. => "code"

def display : Constant → String
  | .null => "null"
  | .bool b => if b then "true" else "false"
  | .int n => String.ofList (integerText n.toInt)
  | .float x => String.ofList x.literal
  | .text s => String.ofList (Escaped.encode s.toList)
  | .code info _ _ => info.display

mutual

/-- Equality of constants.  Floats are compared as numbers, so a NaN equals nothing. -/
def same (store : CellStore) : Constant → Constant → Bool
  | .null, .null => true
  | .bool a, .bool b => decide (a = b)
  | .int m, .int n => decide (m = n)
  | .float x, .float y => x.equals y
  | .text s, .text t => decide (s = t)
  | .code info cell constants, .code info' cell' constants' =>
    decide (info = info') && decide (store.cells? cell = store.cells? cell') &&
      sameList store constants constants'
  | _, _ => false

def sameList (store : CellStore) : List Constant → List Constant → Bool
  | [], [] => true
  | a :: rest, b :: rest' => same store a b && sameList store rest rest'
  | _, _ => false

end

end Constant

namespace Code

/-- A new record whose cells are not filled in. -/
def build (store : CellStore) (info : CodeInfo) (constants : List Constant) : Code × CellStore :=
  let (cell, store) := store.add none
  (⟨info, cell, constants⟩, store)

/-- A copy with cells of its own, which start out as those of the record.  Nested records
    are shared. -/
def clone (store : CellStore) (c : Code) : Code × CellStore :=
  let (cell, store) := store.add (store.cells? c.cell)
  ({ c with cell := cell }, store)

def cells? (store : CellStore) (c : Code) : Option (List ClosureCell) := store.cells? c.cell

/-- Fill in the cells of a closure.  They can be filled in once. -/
def populate (store : CellStore) (c : Code) (cells : List ClosureCell) :
    Except ClosureFault CellStore :=
  if !c.info.isClosure then .error (.notAClosure c.info.name)
  else
    match c.cells? store with
    | some _ => .error (.alreadyPopulated c.info.name)
    | none => .ok (store.fill c.cell cells)

def same (store : CellStore) (c d : Code) : Bool :=
  Constant.same store (Constant.ofCode c) (Constant.ofCode d)

end Code

end DynamicObjects
