import DynamicObjects.TypeDescriptor

/-! # Builtin types

    The ten types that are always there.  Their names belong to them: a declared type
    of one of these names is never found by name. -/

namespace DynamicObjects

namespace TypeDescriptor

def null : TypeDescriptor :=
  (TypeBuilder.new "null" .null
    |>.slot .init (.construct .null)
    |>.slot .str (.str .null)
    |>.slot .repr (.repr .null)
    |>.slot .eq (.eq .isNull)).build (.builtin .null)

def bool : TypeDescriptor :=
  (TypeBuilder.new "bool" .bool
    |>.slot .init (.construct .bool)
    |>.slot .str (.str .bool)
    |>.slot .repr (.repr .bool)
    |>.slot .eq (.eq .structural)).build (.builtin .bool)

/-- What the three types of numbers have in common: how they are made and written differs,
    the arithmetic is the same. -/
def numeric (name : String) (category : Category) (how : Initializer) (shown : Rendering) :
    TypeDescriptor :=
  (TypeBuilder.new name category
    |>.slot .init (.construct how)
    |>.slot .str (.str shown)
    |>.slot .repr (.repr shown)
    |>.slot .eq (.eq .structural)
    |>.slot .add .addNumber
    |>.slot .sub .subNumber
    |>.slot .mul .mulNumber
    |>.slot .div .divNumber).build (.builtin category)

def integer : TypeDescriptor := numeric "integer" .integer .integer .integer

def float : TypeDescriptor := numeric "float" .float .float .float

def complex : TypeDescriptor := numeric "complex" .complex .complex .complex

def string : TypeDescriptor :=
  let b := TypeBuilder.new "string" .string
    |>.slot .init (.construct .text)
    |>.slot .str (.str .text)
    |>.slot .repr (.repr .quotedText)
    |>.slot .eq (.eq .characters)
    |>.slot .add .concatenate
    |>.slot .mul .repeatText
    |>.slot .getItem (.getItem .text)
    |>.slot .len (.len .text)
  (TextMethod.all.foldl (fun b m => b.method m.name (.text m)) b).build (.builtin .string)

def array : TypeDescriptor :=
  let b := TypeBuilder.new "array" .array
    |>.slot .init (.construct .array)
    |>.slot .str (.str .array)
    |>.slot .repr (.repr .array)
    |>.slot .getItem (.getItem .array)
    |>.slot .setItem .setItem
    |>.slot .len (.len .array)
  (ArrayMethod.all.foldl (fun b m => b.method m.name (.array m)) b).build (.builtin .array)

def module : TypeDescriptor :=
  (TypeBuilder.new "module" .module
    |>.slot .init (.construct .module)
    |>.slot .getAttr (.getAttr .moduleNames)
    |>.slot .setAttr (.setAttr .moduleNames)
    |>.slot .str (.str .module)
    |>.slot .repr (.repr .module)).build (.builtin .module)

/-- The type of functions and bound methods. -/
def function : TypeDescriptor :=
  (TypeBuilder.new "function" .function
    |>.slot .init (.construct .function)
    |>.slot .call .call
    |>.slot .str (.str .function)
    |>.slot .repr (.repr .function)).build (.builtin .function)

/-- The type that carries mappings and foreign values. -/
def wrapper : TypeDescriptor :=
  (TypeBuilder.new "wrapper" .wrapper
    |>.slot .init (.construct .wrapper)
    |>.slot .str (.str .wrapper)).build (.builtin .wrapper)

def builtins : List TypeDescriptor :=
  [null, bool, integer, float, complex, string, array, module, function, wrapper]

def builtin? (name : String) : Option TypeDescriptor :=
  builtins.find? (fun T => decide (T.name = name))

/-- The type of the objects of a struct shape, under a new identity. -/
def struct (shape : StructShape) (ident : TypeId) : TypeDescriptor :=
  (TypeBuilder.new shape.name .struct
    |>.slot .init (.construct .struct)
    |>.slot .getAttr (.getAttr .structMembers)
    |>.slot .setAttr (.setAttr .structMembers)
    |>.slot .str (.str .struct)
    |>.slot .repr (.repr .struct)
    |>.withShape shape).build ident

end TypeDescriptor

end DynamicObjects
