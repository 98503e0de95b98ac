import DynamicObjects.Number.Printing
import DynamicObjects.Slot

/-! # Faults

    Why an operation fails.  A fault names its cause; its kind and its message, which
    diagnostics show, are functions of the cause.  Hosts can raise faults of any kind
    with any message. -/

namespace DynamicObjects

/-! ## Kinds -/

/-- The kind of a fault.  The set is open: a host may use names of its own. -/
inductive FaultKind where
  | typeError | indexError | valueError | attributeError | zeroDivisionError | runtimeError
  | custom (name : String)
deriving DecidableEq

namespace FaultKind

def builtin : List FaultKind :=
  [.typeError, .indexError, .valueError, .attributeError, .zeroDivisionError, .runtimeError]

def name : FaultKind → String
  | .typeError => "TypeError"
  | .indexError => "IndexError"
  | .valueError => "ValueError"
  | .attributeError => "AttributeError"
  | .zeroDivisionError => "ZeroDivisionError"
  | .runtimeError => "RuntimeError"
  | .custom name => name

/-- The kind of a given name; an unknown name is a custom kind. -/
def ofName (name : String) : FaultKind :=
  (builtin.find? (fun k => decide (k.name = name))).getD (.custom name)

def isCustom : FaultKind → Bool
  | .custom _ => true
  | _ => false

end FaultKind

/-! ## Causes -/

inductive Fault where
  -- Dispatch
  /-- The type of the receiver leaves the slot empty. -/
  | slotUnsupported (slot : Slot) (typeName : String)
  /-- A rendering gave something other than text. -/
  | nonText (slot : Slot) (typeName : String)
  /-- The object that a method is bound to is gone. -/
  | receiverReleased (method : String)
  | notCallable (typeName : String)
  | negativeLength (length : Int64)
  | nonIntegerLength (typeName : String)
  -- Arguments
  | argumentCount (method : String) (expected got : Nat)
  | argumentType (method expected got : String)
  -- Subscripts
  | indexOutOfRange (length : Nat) (index : Int64)
  | subscriptNotInteger (container : String)
  -- Attributes
  | noAttribute (typeName attr : String)
  | attributeNameNotText (typeName : String)
  | noModuleAttribute (module attr : String)
  | noNamespace (module : String)
  -- Structs
  | noMember (struct member : String)
  | protectedMember (struct member : String)
  | notStruct (typeName : String)
  /-- A struct object can only be declared or cloned. -/
  | notConstructible (typeName : String)
  | prototypeRequired
  | memberCount (struct : String) (expected : Nat)
  | memberDataNotList (struct : String)
  | structNameNotText
  | memberNamesNotList
  | memberNameNotText (typeName : String)
  -- Arithmetic
  | divisionByZero
  | integerOverflow (operation : String)
  | unsupportedOperands (operation left right : String)
  -- Conversion of numbers
  | floatNotInteger (x : Binary64)
  | integerLiteral (text : String)
  | integerArgument (typeName : String)
  | floatLiteral (text : String)
  | floatArgument (typeName : String)
  | complexArgument (typeName : String)
  | complexArgumentCount (got : Nat)
  -- Arrays
  | noElements
  | popFromEmpty
  | insertPosition
  | elementNotFound
  | extensionNotArray
  | unorderable (left right : String)
  -- Texts
  | repetitionCount (typeName : String)
  | repetitionTooLong
  | comparandNotText (typeName : String)
  | joinedNotIterable (typeName : String)
  -- Formatting
  | incompleteFormat
  | tooFewArguments
  | tooManyArguments
  | numberRequired (conversion : Char) (typeName : String)
  | realRequired (typeName : String)
  | integerRequired (conversion : Char) (typeName : String)
  | characterRange
  | characterLength
  | characterRequired (typeName : String)
  | unknownConversion (conversion : Char)
  -- Interpreter
  | recursionLimit (limit : Nat)
  | moduleNotFound (name : String)
  -- Hosts
  /-- A fault of the host's own making. -/
  | raised (kind : FaultKind) (message : String)
deriving DecidableEq

namespace Fault

def kind : Fault → FaultKind
  | .slotUnsupported .. | .nonText .. | .notCallable .. | .nonIntegerLength .. => .typeError
  | .receiverReleased .. => .runtimeError
  | .negativeLength .. => .valueError
  | .argumentCount .. | .argumentType .. | .subscriptNotInteger .. => .typeError
  | .indexOutOfRange .. | .popFromEmpty => .indexError
  | .noAttribute .. | .noModuleAttribute .. | .noMember .. | .protectedMember .. => .attributeError
  | .attributeNameNotText .. => .typeError
  | .noNamespace .. => .runtimeError
  | .notStruct .. | .notConstructible .. | .prototypeRequired => .typeError
  | .memberCount .. | .memberDataNotList .. => .valueError
  | .structNameNotText | .memberNamesNotList | .memberNameNotText .. => .typeError
  | .divisionByZero => .zeroDivisionError
  | .integerOverflow .. => .runtimeError
  | .unsupportedOperands .. => .typeError
  | .floatNotInteger .. | .integerLiteral .. | .floatLiteral .. => .valueError
  | .integerArgument .. | .floatArgument .. | .complexArgument .. => .typeError
  | .complexArgumentCount .. => .typeError
  | .noElements => .runtimeError
  | .insertPosition | .extensionNotArray | .unorderable .. => .typeError
  | .elementNotFound => .valueError
  | .repetitionCount .. | .comparandNotText .. | .joinedNotIterable .. => .typeError
  | .repetitionTooLong => .custom "MemoryError"
  | .incompleteFormat | .characterRange | .unknownConversion .. => .valueError
  | .tooFewArguments | .tooManyArguments | .numberRequired .. | .realRequired .. => .typeError
  | .integerRequired .. | .characterLength | .characterRequired .. => .typeError
  | .recursionLimit .. => .runtimeError
  | .moduleNotFound .. => .custom "ModuleNotFoundError"
  | .raised kind _ => kind

def decimal (n : Nat) : String := String.ofList (Nat.toDigits 10 n)

def integer (n : Int64) : String := String.ofList (integerText n.toInt)

def codePoint (c : Char) : String := "0x" ++ String.ofList (Nat.toDigits 16 c.toNat)

def message : Fault → String
  | .slotUnsupported slot typeName =>
    "'" ++ typeName ++ "' object does not support '" ++ slot.name ++ "'"
  | .nonText slot typeName => slot.name ++ " returned non-string (type " ++ typeName ++ ")"
  | .receiverReleased method => "receiver of bound method '" ++ method ++ "' no longer exists"
  | .notCallable typeName => "'" ++ typeName ++ "' object is not callable"
  | .negativeLength length => "__len__ returned negative length " ++ integer length
  | .nonIntegerLength typeName => "__len__ returned non-integer (type " ++ typeName ++ ")"
  | .argumentCount method expected got =>
    let word := if expected = 1 then "argument" else "arguments"
    method ++ "() takes " ++ decimal expected ++ " " ++ word ++ " (" ++ decimal got ++ " given)"
  | .argumentType method expected got =>
    method ++ "() requires " ++ expected ++ ", not " ++ got
  | .indexOutOfRange length index =>
    "index out of range (len " ++ decimal length ++ ", index " ++ integer index ++ ")"
  | .subscriptNotInteger container => container ++ " subscript index must be integer."
  | .noAttribute typeName attr =>
    "'" ++ typeName ++ "' object has no attribute '" ++ attr ++ "'"
  | .attributeNameNotText typeName => "attribute name must be string, not " ++ typeName
  | .noModuleAttribute module attr =>
    "module '" ++ module ++ "' has no attribute '" ++ attr ++ "'"
  | .noNamespace module => "module '" ++ module ++ "' has no namespace"
  | .noMember struct member => "struct '" ++ struct ++ "' has no member '" ++ member ++ "'"
  | .protectedMember struct member =>
    "member '" ++ member ++ "' of struct '" ++ struct ++ "' is protected"
  | .notStruct typeName => "'" ++ typeName ++ "' is not a struct"
  | .notConstructible typeName =>
    "struct '" ++ typeName ++ "' can only be created through new()"
  | .prototypeRequired => "new() requires a struct"
  | .memberCount struct expected =>
    "struct '" ++ struct ++ "' initializing needs " ++ decimal expected ++ " value(s)"
  | .memberDataNotList struct => "struct '" ++ struct ++ "' initializing needs a list"
  | .structNameNotText => "struct name must be string"
  | .memberNamesNotList => "struct members or protecteds must be list"
  | .memberNameNotText typeName => "struct member name must be string, not " ++ typeName
  | .divisionByZero => "division by zero"
  | .integerOverflow operation => "integer overflow in " ++ operation
  | .unsupportedOperands operation left right =>
    "unsupported operand type(s) for " ++ operation ++ ": '" ++ left ++ "' and '" ++ right ++ "'"
  | .floatNotInteger x =>
    "cannot convert float " ++ String.ofList x.nonFiniteName ++ " to integer"
  | .integerLiteral text => "invalid literal for integer: '" ++ text ++ "'"
  | .integerArgument typeName =>
    "integer() argument must be a number or string, not " ++ typeName
  | .floatLiteral text => "could not convert string to float: '" ++ text ++ "'"
  | .floatArgument typeName => "float() argument must be a number or string, not " ++ typeName
  | .complexArgument typeName => "complex() argument must be a number, not " ++ typeName
  | .complexArgumentCount got =>
    "complex() takes at most 2 arguments (" ++ decimal got ++ " given)"
  | .noElements => "array has no element storage"
  | .popFromEmpty => "pop from empty array"
  | .insertPosition => "array.insert(x) required an integer"
  | .elementNotFound => "array.remove(x): x not in array"
  | .extensionNotArray => "array.extend(x): x must be an array"
  | .unorderable left right =>
    "'<' not supported between instances of '" ++ left ++ "' and '" ++ right ++ "'"
  | .repetitionCount typeName => "can't multiply sequence by non-int of type '" ++ typeName ++ "'"
  | .repetitionTooLong => "repeated string is too long"
  | .comparandNotText typeName => "string can only compare with string, not " ++ typeName
  | .joinedNotIterable typeName => "can only join an iterable, not " ++ typeName
  | .incompleteFormat => "incomplete format"
  | .tooFewArguments => "not enough arguments for format string"
  | .tooManyArguments => "not all arguments converted during string formatting"
  | .numberRequired conversion typeName =>
    "%" ++ conversion.toString ++ " format: a number is required, not " ++ typeName
  | .realRequired typeName => "must be real number, not " ++ typeName
  | .integerRequired conversion typeName =>
    "%" ++ conversion.toString ++ " format: an integer is required, not " ++ typeName
  | .characterRange => "%c arg not in range(0x110000)"
  | .characterLength => "%c requires int or char"
  | .characterRequired typeName => "%c requires int or char, not " ++ typeName
  | .unknownConversion conversion =>
    "unsupported format character '" ++ conversion.toString ++ "' (" ++ codePoint conversion ++ ")"
  | .recursionLimit limit =>
    "maximum recursion depth exceeded (limit " ++ decimal limit ++ ")"
  | .moduleNotFound name => "no builtin module named '" ++ name ++ "'"
  | .raised _ message => message

/-- The line that a diagnostic ends with. -/
def display (f : Fault) : String := f.kind.name ++ ": " ++ f.message

end Fault

end DynamicObjects
