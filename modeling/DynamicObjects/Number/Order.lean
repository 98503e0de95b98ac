import DynamicObjects.Fault
import DynamicObjects.Value

/-! # Orders for sorting

    One order has to cover all payloads that are sorted together: texts are ordered by
    their characters, integers and truth values exactly, and as soon as there is a
    float among them, all numbers by the total order of floats.  Nothing else can be
    sorted. -/

namespace DynamicObjects

/-- An order shared by all payloads of one sort. -/
inductive SortOrder where
  /-- Nothing is known about the payloads yet; at most one of them exists. -/
  | any
  | text
  | integer
  | real
deriving DecidableEq

namespace SortOrder

/-- The order that a payload asks for by itself. -/
def of? : Value → Option SortOrder
  | .text _ => some .text
  | .int _ | .bool _ => some .integer
  | .float _ => some .real
  | _ => none

/-- The order that covers two kinds of payloads. -/
def join? : SortOrder → SortOrder → Option SortOrder
  | .any, order => some order
  | .text, .text => some .text
  | .integer, .integer => some .integer
  | .integer, .real | .real, .integer | .real, .real => some .real
  | _, _ => none

/-- Extend an order over the remaining payloads; the first one that does not fit is reported
    together with its predecessor. -/
def extend (order : SortOrder) (previous : Value) : List Value → Except (Value × Value) SortOrder
  | [] => .ok order
  | key :: rest =>
    match (of? key).bind order.join? with
    | some order => extend order key rest
    | none => .error (previous, key)

/-- The order of a list of payloads, or two that cannot be sorted together.  Fewer than two
    need no order. -/
def covering : List Value → Except (Value × Value) SortOrder
  | first :: second :: rest => extend .any first (first :: second :: rest)
  | _ => .ok .any

def integerKey : Value → Int
  | .int n => n.toInt
  | .bool b => if b then 1 else 0
  | _ => 0

def realKey (v : Value) : Int := (v.asReal?.getD Binary64.nan).totalKey

/-- Whether a payload may stand in front of another. -/
def le (order : SortOrder) (a b : Value) : Bool :=
  match order with
  | .any => true
  | .text =>
    match a, b with
    | .text s, .text t => decide (s ≤ t)
    | .text _, _ => false
    | _, _ => true
  | .integer => decide (integerKey a ≤ integerKey b)
  | .real => decide (realKey a ≤ realKey b)

end SortOrder

end DynamicObjects
