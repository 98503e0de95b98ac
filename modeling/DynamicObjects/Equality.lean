import DynamicObjects.ObjectSet
import DynamicObjects.Run

/-! # Structural comparison

    Equality, order and truth of values by their payloads, without asking any type for
    its own rules.

    Numbers are equal if they denote the same complex number, texts if their
    characters are, lists and mappings if their elements are; functions, foreign
    values and objects without a payload are equal only to themselves.  Objects may
    contain each other in cycles, so the comparison keeps the pairs of objects that it
    has met: a pair that is met again is taken to be equal.  Pairs of which only one
    side is an object are not kept, and a comparison that alternates between such
    pairs for ever does not end.  The recursion is bounded by a number of levels that
    only an endless comparison exceeds. -/

namespace DynamicObjects

/-! ## Equality -/

/-- The state of a comparison: what it says so far and the pairs of objects it has met; or
    no end. -/
abbrev Comparison := Option (Bool × PairSet)

namespace Comparison

/-- Compare element by element up to the first difference. -/
def lists (compare : Value → Value → PairSet → Comparison) :
    List Value → List Value → PairSet → Comparison
  | x :: xs, y :: ys, met =>
    match compare x y met with
    | some (true, met) => lists compare xs ys met
    | answer => answer
  | [], [], met => some (true, met)
  | _, _, met => some (false, met)

/-- Compare each entry with the one of the same name up to the first difference. -/
def entries (compare : Value → Value → PairSet → Comparison) :
    Bindings Value → Bindings Value → PairSet → Comparison
  | [], _, met => some (true, met)
  | (name, x) :: rest, others, met =>
    match Bindings.get? name others with
    | none => some (false, met)
    | some y =>
      match compare x y met with
      | some (true, met) => entries compare rest others met
      | answer => answer

/-- Compare two payloads, their elements by the given comparison. -/
def payloads (compare : Value → Value → PairSet → Comparison) (x y : Value) (met : PairSet) :
    Comparison :=
  match x.asComplex?, y.asComplex? with
  | some z, some u => some (z.equals u, met)
  | _, _ =>
    match x, y with
    | .null, .null => some (true, met)
    | .text s, .text t => some (decide (s = t), met)
    | .list xs, .list ys =>
      if xs.length = ys.length then lists compare xs ys met else some (false, met)
    | .dict xs, .dict ys =>
      if xs.length = ys.length then entries compare xs ys met else some (false, met)
    | .function f, .function g => some (decide (f.ident = g.ident), met)
    | .foreign v, .foreign u => some (decide (v.ident = u.ident), met)
    | .object o, .object p => some (decide (o = p), met)
    | _, _ => some (false, met)

/-- Note a pair of values before their payloads are compared.  Nothing is left to compare if
    they are the same object or a pair of objects met before. -/
def meet? (x y : Value) (met : PairSet) : Option PairSet :=
  match x, y with
  | .object o, .object p =>
    if o = p ∨ met.contains o p then none else some (met.insert o p)
  | _, _ => some met

def values (w : World) : Nat → Value → Value → PairSet → Comparison
  | 0, _, _, _ => none
  | depth + 1, x, y, met =>
    match meet? x y met with
    | none => some (true, met)
    | some met => payloads (values w depth) (w.unwrap x) (w.unwrap y) met

end Comparison

namespace World

/-- As many levels as a comparison that ends can have: the pairs of objects that have been
    met are pairs of nodes, and as long as no new one is met, no pair of nodes is compared
    inside itself. -/
def comparisonDepth (w : World) (x y : Value) : Nat :=
  let nodes := w.weight + x.size + y.size
  (nodes * nodes + 1) * (nodes * nodes)

/-- Structural equality of two values.  The depth that always suffices is computed only if
    the usual one has been used up. -/
def structurallyEqual (w : World) (x y : Value) : Option Bool :=
  let within (depth : Nat) := (Comparison.values w depth x y .empty).map Prod.fst
  within Run.usualDepth <|> within (w.comparisonDepth x y)

/-- The first position whose element is structurally equal to a payload. -/
def positionOf (w : World) (items : List Value) (target : Value) : Option (Option Nat) :=
  match items with
  | [] => some none
  | item :: rest =>
    match w.structurallyEqual item target with
    | none => none
    | some true => some (some 0)
    | some false => (w.positionOf rest target).map (Option.map (· + 1))

def occurrences (w : World) (items : List Value) (target : Value) : Option Nat :=
  match items with
  | [] => some 0
  | item :: rest =>
    match w.structurallyEqual item target with
    | none => none
    | some found => (w.occurrences rest target).map (fun n => if found then n + 1 else n)

/-! ## Order -/

/-- The order of two payloads: of texts by their characters, of integers exactly, of other
    real numbers as floats. -/
def compareStructurally (w : World) (x y : Value) : Option Ordering :=
  match w.unwrap x, w.unwrap y with
  | .text s, .text t => some (compareOfLessAndEq s t)
  | .int m, .int n => some (compare m.toInt n.toInt)
  | x, y =>
    match x.asReal?, y.asReal? with
    | some a, some b => a.compare? b
    | _, _ => none

/-! ## Truth -/

/-- Whether a value that is no object counts as true: all do but null, false, zeros and what
    is empty. -/
def truthOfRaw : Value → Bool
  | .null => false
  | .bool b => b
  | .int n => decide (n ≠ 0)
  | .float x => !x.isZero
  | .complex z => !z.isZero
  | .text s => decide (s ≠ "")
  | .list items => !items.isEmpty
  | .dict entries => !entries.isEmpty
  | .function _ | .foreign _ | .object _ => true

/-- Follow payloads to a limited depth; an object without one counts as true. -/
def truthWithin (w : World) : Nat → Value → Option Bool
  | 0, _ => none
  | depth + 1, .object o =>
    match w.payload? o with
    | none => some true
    | some v => w.truthWithin depth v
  | _ + 1, v => some (truthOfRaw v)

/-- Whether a value counts as true.  Only payloads that form a cycle leave it open. -/
def truth (w : World) (v : Value) : Option Bool := w.truthWithin (w.heap.size + 2) v

end World

end DynamicObjects
