import DynamicObjects.Slot

/-! # Handlers and methods

    What a type can put into its slots, and what it can offer under a method name.
    Both are closed descriptions rather than functions, so that a type is plain data
    and the rules of every builtin type can be taken apart by cases.  A `native` one
    is named here and supplied by the host.

    The handlers of one slot form a type of their own: only an equality rule fits the
    slot `eq`, only a rendering the slots `str` and `repr`. -/

namespace DynamicObjects

/-! ## Rules that slots choose from -/

/-- How a new object takes its content from the arguments of its construction. -/
inductive Initializer where
  /-- Whatever the arguments are, nothing is stored. -/
  | ignore
  | null | bool | integer | float | complex | text | array | module | struct | function | wrapper
deriving DecidableEq

/-- How an object is written. -/
inductive Rendering where
  /-- The type name and the identity of the object. -/
  | identity
  | null | bool | integer | float | complex
  | text
  | quotedText
  | array
  | module | struct | function | wrapper
deriving DecidableEq

/-- When an object counts as equal to a value. -/
inductive EqualityRule where
  | identity
  | isNull
  | structural
  /-- Both are strings of the same characters. -/
  | characters
deriving DecidableEq

/-- Where attributes are kept. -/
inductive AttributeStore where
  | properties
  | moduleNames
  | structMembers
deriving DecidableEq

/-- What is indexed and counted. -/
inductive Container where
  | text
  | array
deriving DecidableEq

/-! ## Handlers -/

/-- What a type puts into a slot. -/
inductive Handler : Slot → Type where
  /-- A handler of the host, by name. -/
  | native {s : Slot} (name : String) : Handler s
  | construct (how : Initializer) : Handler .init
  | str (how : Rendering) : Handler .str
  | repr (how : Rendering) : Handler .repr
  | eq (rule : EqualityRule) : Handler .eq
  /-- Identity, answered as a boolean object. -/
  | identical : Handler .equals
  | getItem (container : Container) : Handler .getItem
  | setItem : Handler .setItem
  | getAttr (store : AttributeStore) : Handler .getAttr
  | setAttr (store : AttributeStore) : Handler .setAttr
  | len (container : Container) : Handler .len
  | call : Handler .call
  | addNumber : Handler .add
  | subNumber : Handler .sub
  | mulNumber : Handler .mul
  | divNumber : Handler .div
  | concatenate : Handler .add
  | repeatText : Handler .mul

/-! ## Methods -/

inductive ArrayMethod where
  | append | pop | contains | count | insert | remove | sort | index | extend | clear | reverse
  | copy
deriving DecidableEq

/-- All methods of arrays in their order of declaration. -/
def ArrayMethod.all : List ArrayMethod :=
  [.append, .pop, .contains, .count, .insert, .remove, .sort, .index, .extend, .clear, .reverse,
   .copy]

def ArrayMethod.name : ArrayMethod → String
  | .append => "append"
  | .pop => "pop"
  | .contains => "contains"
  | .count => "count"
  | .insert => "insert"
  | .remove => "remove"
  | .sort => "sort"
  | .index => "index"
  | .extend => "extend"
  | .clear => "clear"
  | .reverse => "reverse"
  | .copy => "copy"

inductive TextMethod where
  | isAlpha | isDecimal | isDigit | isNumeric | isLower | isUpper | join | format
deriving DecidableEq

def TextMethod.all : List TextMethod :=
  [.isAlpha, .isDecimal, .isDigit, .isNumeric, .isLower, .isUpper, .join, .format]

def TextMethod.name : TextMethod → String
  | .isAlpha => "isAlpha"
  | .isDecimal => "isDecimal"
  | .isDigit => "isDigit"
  | .isNumeric => "isNumeric"
  | .isLower => "isLower"
  | .isUpper => "isUpper"
  | .join => "join"
  | .format => "format"

/-- What runs when a method that is bound to its receiver is called. -/
inductive MethodBody where
  | array (method : ArrayMethod)
  | text (method : TextMethod)
  /-- A handler of the host, by name. -/
  | native (name : String)
deriving DecidableEq

end DynamicObjects
