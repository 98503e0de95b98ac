import DynamicObjects.Behaviour.Number
import DynamicObjects.Format.NumberText
import DynamicObjects.Rendering

/-! # Formatting

    Substituting arguments into a template.  The pieces are taken from left to right
    and each directive uses up one argument, so formatting is compositional: what the
    rest of a template gives does not depend on the pieces in front of it, except
    through the arguments they use up. -/

namespace DynamicObjects

namespace Format

/-! ## Arguments of directives -/

/-- The integer for a decimal conversion; a float is cut off at its point. -/
def decimalArgument? : Value → Option Int64
  | .int n => some n
  | .bool b => some (Behaviour.integerOfBool b)
  | .float x => if x.isFinite then some (Behaviour.clampedInteger x) else none
  | _ => none

/-- The integer for a conversion in another base. -/
def integerArgument? : Value → Option Int64
  | .int n => some n
  | .bool b => some (Behaviour.integerOfBool b)
  | _ => none

/-- The character for the conversion `c`: a code point, or a text of one character. -/
def characterArgument (w : World) : Value → Except Fault Char
  | .int n =>
    let c := n.toInt.toNat
    if h : 0 ≤ n.toInt ∧ c.isValidChar then .ok (Char.ofNatAux c h.2)
    else .error .characterRange
  | .text s =>
    match s.toList with
    | [c] => .ok c
    | _ => .error .characterLength
  | v => .error (.characterRequired (w.kindName v))

/-! ## Conversions -/

def truncated (layout : Layout) (text : String) : List Char :=
  match layout.precision with
  | some limit => text.toList.take limit
  | none => text.toList

/-- The text of a number or character under a conversion, and whether it is a number. -/
def scalarBody (w : World) (layout : Layout) (conversion : Char) (v : Value) :
    Except Fault (List Char × Bool) :=
  match conversion with
  | 'c' => (characterArgument w v).map fun c => ([c], false)
  | 'd' | 'i' | 'u' =>
    match decimalArgument? v with
    | some n => .ok (integerBody layout conversion n.toInt, true)
    | none => .error (.numberRequired conversion (w.kindName v))
  | 'x' | 'X' | 'o' =>
    match integerArgument? v with
    | some n => .ok (integerBody layout conversion n.toInt, true)
    | none => .error (.integerRequired conversion (w.kindName v))
  | 'f' | 'F' | 'e' | 'E' | 'g' | 'G' =>
    match v.asReal? with
    | some x => .ok (floatBody layout conversion x, x.isFinite)
    | none => .error (.realRequired (w.kindName v))
  | _ => .error (.unknownConversion conversion)

/-- The text of an argument under a conversion, filled up to the width. -/
def convert (natives : Natives) (layout : Layout) (conversion : Char) (v : Value) :
    Run (List Char) := do
  let w ← Run.read id
  let v := w.unwrap v
  match conversion with
  | 's' => do
    let text ← natives.stringify v
    return fill layout false (truncated layout text)
  | 'r' => do
    let text ← natives.represent v
    return fill layout false (truncated layout text)
  | conversion => do
    let (body, isNumber) ← scalarBody w layout conversion v
    return fill layout isNumber body

/-! ## Substitution -/

def substitute (natives : Natives) : List Piece → List Value → Run (List Char)
  | [], [] => return []
  | [], _ :: _ => Run.raise .tooManyArguments
  | .literal c :: pieces, args => do
    let text ← substitute natives pieces args
    return c :: text
  | .directive _ _ :: _, [] => Run.raise .tooFewArguments
  | .directive layout conversion :: pieces, v :: args => do
    let body ← convert natives layout conversion v
    let text ← substitute natives pieces args
    return body ++ text
  | .incomplete :: _, _ => Run.raise .incompleteFormat

end Format

def Natives.format (natives : Natives) (template : List Char) (args : List Value) :
    Run (List Char) :=
  Format.substitute natives (Format.parse template) args

end DynamicObjects
