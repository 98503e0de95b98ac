import DynamicObjects.Run

/-! # Lifetimes

    An object lives as long as it has an owner.  Owners are the roots given from
    outside, the singletons, the declared types, and every object that has not
    been released, which owns what its properties and the shared methods of its
    type refer to.  A bound method does not own its receiver.

    A release counts the owners of each object.  What has none is released and
    gives up what it owned, whereby other objects may lose their last owner.
    Objects that own each other in a circle keep each other for ever. -/

namespace DynamicObjects

namespace World

/-- What a world owns by itself: the singletons and the shared methods of the declared types. -/
def ownRoots (w : World) : List ObjectId :=
  singletons ++ w.declared.flatMap (fun entry => entry.2.sharedMethods)

/-- What is owned from one place of the heap. -/
def ownedFrom : Option Object → List ObjectId
  | some x => x.references
  | none => []

def owned (w : World) (o : ObjectId) : List ObjectId := ownedFrom (w.object? o)

/-- All references of owners, one for each time that an object is owned. -/
def ownings (w : World) (roots : List ObjectId) : List ObjectId :=
  w.ownRoots ++ roots ++ w.heap.toList.flatMap ownedFrom

/-! ## Counts -/

def increase (counts : Array Nat) (os : List ObjectId) : Array Nat :=
  os.foldl (fun counts o => counts.modify o.index (· + 1)) counts

def decrease (counts : Array Nat) (os : List ObjectId) : Array Nat :=
  os.foldl (fun counts o => counts.modify o.index (· - 1)) counts

def ownerCounts (w : World) (roots : List ObjectId) : Array Nat :=
  increase (Array.replicate w.heap.size 0) (w.ownings roots)

/-! ## Releases -/

/-- Release one object. -/
def free (w : World) (o : ObjectId) : World :=
  { w with heap := w.heap.setIfInBounds o.index none }

/-- The number of objects that have not been released. -/
def population (w : World) : Nat := w.heap.countP Option.isSome

theorem population_free_lt {w : World} {o : ObjectId} {x : Object} (hx : w.object? o = some x) :
    (w.free o).population < w.population := by
  have hslot : w.heap[o.index]? = some (some x) := Option.join_eq_some_iff.mp hx
  obtain ⟨hlt, hget⟩ := Array.getElem?_eq_some_iff.mp hslot
  have hpos : 0 < w.heap.countP Option.isSome :=
    Array.countP_pos_iff.mpr ⟨some x, Array.mem_of_getElem? hslot, rfl⟩
  rw [population, free, population, Array.setIfInBounds, dif_pos hlt, Array.countP_set, hget]
  simp only [Option.isSome_some, Option.isSome_none, Bool.false_eq_true, if_true, if_false]
  omega

/-- Release those of the objects to visit that have no owner, and then what they
    owned in turn. -/
def release (w : World) (counts : Array Nat) : List ObjectId → World
  | [] => w
  | o :: rest =>
    match _hx : w.object? o with
    | some x =>
      if counts.getD o.index 0 = 0 then
        (w.free o).release (decrease counts x.references) (x.references ++ rest)
      else w.release counts rest
    | none => w.release counts rest
termination_by work => (w.population, work.length)
decreasing_by
  · exact Prod.Lex.left _ _ (population_free_lt _hx)
  · exact Prod.Lex.right _ (Nat.lt_succ_self _)
  · exact Prod.Lex.right _ (Nat.lt_succ_self _)

/-- Release all objects without an owner. -/
def collect (w : World) (roots : List ObjectId) : World :=
  w.release (w.ownerCounts roots) ((List.range w.heap.size).map ObjectId.mk)

end World

end DynamicObjects
