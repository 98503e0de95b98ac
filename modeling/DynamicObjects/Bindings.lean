/-! # Bindings

    A finite map from names to values, kept as a list of pairs.  A name that is bound
    again keeps its place, a new name goes to the end; the order is that in which the
    entries are enumerated. -/

namespace DynamicObjects

/-- Names with the values bound to them. -/
abbrev Bindings (α : Type) := List (String × α)

namespace Bindings

variable {α : Type}

def get? (name : String) : Bindings α → Option α
  | [] => none
  | (key, a) :: rest => if key = name then some a else get? name rest

/-- Bind a name, replacing an earlier binding of it. -/
def set (name : String) (a : α) : Bindings α → Bindings α
  | [] => [(name, a)]
  | (key, b) :: rest => if key = name then (key, a) :: rest else (key, b) :: set name a rest

/-- Bind several names, the later ones prevailing. -/
def setAll (bindings : Bindings α) (entries : Bindings α) : Bindings α :=
  entries.foldl (fun acc entry => set entry.1 entry.2 acc) bindings

def erase (name : String) (bindings : Bindings α) : Bindings α :=
  bindings.filter (fun entry => decide (entry.1 ≠ name))

def contains (name : String) (bindings : Bindings α) : Bool := (get? name bindings).isSome

/-- The bound names in order of enumeration. -/
def names (bindings : Bindings α) : List String := bindings.map Prod.fst

def sortedNames (bindings : Bindings α) : List String :=
  (names bindings).mergeSort (fun a b => decide (a ≤ b))

@[simp] theorem get?_nil (name : String) : get? name ([] : Bindings α) = none := rfl

@[simp] theorem get?_set_self (name : String) (a : α) (bindings : Bindings α) :
    get? name (set name a bindings) = some a := by
  induction bindings with
  | nil => simp [set, get?]
  | cons entry rest ih =>
    obtain ⟨key, b⟩ := entry
    by_cases h : key = name
    · simp [set, get?, h]
    · simp [set, get?, h, ih]

@[simp] theorem get?_set_ne {name other : String} (h : other ≠ name) (a : α)
    (bindings : Bindings α) : get? other (set name a bindings) = get? other bindings := by
  induction bindings with
  | nil => simp [set, get?, Ne.symm h]
  | cons entry rest ih =>
    obtain ⟨key, b⟩ := entry
    by_cases hk : key = name
    · subst hk
      simp [set, get?, Ne.symm h]
    · simp [set, get?, hk, ih]

@[simp] theorem get?_erase_self (name : String) (bindings : Bindings α) :
    get? name (erase name bindings) = none := by
  induction bindings with
  | nil => rfl
  | cons entry rest ih =>
    obtain ⟨key, b⟩ := entry
    by_cases h : key = name
    · simpa [erase, h] using ih
    · simpa [erase, get?, h] using ih

@[simp] theorem get?_erase_ne {name other : String} (h : other ≠ name)
    (bindings : Bindings α) : get? other (erase name bindings) = get? other bindings := by
  induction bindings with
  | nil => rfl
  | cons entry rest ih =>
    obtain ⟨key, b⟩ := entry
    by_cases hk : key = name
    · subst hk
      simpa [erase, get?, Ne.symm h] using ih
    · by_cases ho : key = other
      · subst ho
        simp [erase, get?, hk]
      · simpa [erase, get?, hk, ho] using ih

/-- Binding several names leaves all other names alone. -/
theorem get?_setAll_of_notMem {name : String} {entries : Bindings α} (h : name ∉ names entries)
    (bindings : Bindings α) : get? name (setAll bindings entries) = get? name bindings := by
  induction entries generalizing bindings with
  | nil => rfl
  | cons entry rest ih =>
    simp only [names, List.map_cons, List.mem_cons, not_or] at h
    exact (ih h.2 (set entry.1 entry.2 bindings)).trans (get?_set_ne h.1 entry.2 bindings)

end Bindings

end DynamicObjects
