import DynamicObjects.Value
import Std.Data.TreeMap
import Std.Data.TreeSet

/-! # Sets of objects

    Finite sets of objects and of pairs of objects.  A walk over objects that may
    refer to each other in cycles keeps what it has met in such a set, so it has to be
    quick to ask even if much has been met.  The only question is whether something is
    in the set. -/

namespace DynamicObjects

/-- A finite set of objects. -/
structure ObjectSet where
  indices : Std.TreeSet Nat

namespace ObjectSet

def empty : ObjectSet := ⟨∅⟩

def contains (s : ObjectSet) (o : ObjectId) : Bool := s.indices.contains o.index

def insert (s : ObjectSet) (o : ObjectId) : ObjectSet := ⟨s.indices.insert o.index⟩

def erase (s : ObjectSet) (o : ObjectId) : ObjectSet := ⟨s.indices.erase o.index⟩

@[simp] theorem contains_empty (o : ObjectId) : empty.contains o = false := by
  simp [contains, empty]

theorem contains_insert (s : ObjectSet) (o p : ObjectId) :
    (s.insert o).contains p = (decide (o = p) || s.contains p) := by
  obtain ⟨i⟩ := o
  obtain ⟨j⟩ := p
  rw [Bool.eq_iff_iff]
  simp [contains, insert, Std.TreeSet.contains_insert]

theorem contains_erase (s : ObjectSet) (o p : ObjectId) :
    (s.erase o).contains p = (!decide (o = p) && s.contains p) := by
  obtain ⟨i⟩ := o
  obtain ⟨j⟩ := p
  rw [Bool.eq_iff_iff]
  simp [contains, erase, Std.TreeSet.contains_erase]

end ObjectSet

/-- A finite set of pairs of objects: to each first object the second ones it is paired
    with. -/
structure PairSet where
  partners : Std.TreeMap Nat ObjectSet

namespace PairSet

def empty : PairSet := ⟨∅⟩

def partnersOf (s : PairSet) (o : ObjectId) : ObjectSet := s.partners.getD o.index .empty

def contains (s : PairSet) (o p : ObjectId) : Bool := (s.partnersOf o).contains p

def insert (s : PairSet) (o p : ObjectId) : PairSet :=
  ⟨s.partners.insert o.index ((s.partnersOf o).insert p)⟩

@[simp] theorem contains_empty (o p : ObjectId) : empty.contains o p = false := by
  simp [contains, partnersOf, empty]

theorem partnersOf_insert (s : PairSet) (o p o' : ObjectId) :
    (s.insert o p).partnersOf o' =
      if o = o' then (s.partnersOf o).insert p else s.partnersOf o' := by
  obtain ⟨i⟩ := o
  obtain ⟨j⟩ := o'
  simp [partnersOf, insert, Std.TreeMap.getD_insert]

theorem contains_insert (s : PairSet) (o p o' p' : ObjectId) :
    (s.insert o p).contains o' p' = (decide (o = o' ∧ p = p') || s.contains o' p') := by
  rw [contains, partnersOf_insert]
  by_cases h : o = o'
  · subst h
    simp [ObjectSet.contains_insert, contains]
  · simp [h, contains]

end PairSet

end DynamicObjects
