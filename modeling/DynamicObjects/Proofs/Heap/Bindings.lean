import DynamicObjects.Bindings
import Mathlib.Data.List.Nodup

/-! # Bindings as maps

    `Bindings.last?` is the value that prevails when all entries are bound in
    turn: `Bindings.setAll` is the override of one map by another.  Binding
    names one after the other never binds a name twice. -/

namespace DynamicObjects

namespace Bindings

variable {α : Type}

theorem mem_of_get?_eq_some {name : String} {a : α} {bindings : Bindings α}
    (h : get? name bindings = some a) : (name, a) ∈ bindings := by
  induction bindings with
  | nil => cases h
  | cons entry rest ih =>
    obtain ⟨key, b⟩ := entry
    rw [get?] at h
    split at h
    · next hkey =>
      obtain rfl := Option.some.inj h
      exact hkey ▸ List.mem_cons_self
    · exact List.mem_cons_of_mem _ (ih h)

theorem get?_eq_none_iff {name : String} {xs : Bindings α} :
    get? name xs = none ↔ name ∉ names xs := by
  induction xs with
  | nil => simp [names]
  | cons entry rest ih =>
    obtain ⟨key, a⟩ := entry
    by_cases hkey : key = name
    · simp [get?, names, hkey]
    · rw [get?, if_neg hkey, ih]
      simp [names, Ne.symm hkey]

/-! ## The last binding of a name -/

/-- The value that a name is bound to last. -/
def last? (name : String) : Bindings α → Option α
  | [] => none
  | (key, a) :: rest => (last? name rest).or (if key = name then some a else none)

/-- **Later entries prevail**: to bind all entries overrides one map by
    another. -/
theorem get?_setAll (name : String) (bindings entries : Bindings α) :
    get? name (setAll bindings entries) = (last? name entries).or (get? name bindings) := by
  induction entries generalizing bindings with
  | nil => rfl
  | cons entry rest ih =>
    obtain ⟨key, a⟩ := entry
    have hset : get? name (set key a bindings) =
        (if key = name then some a else none).or (get? name bindings) := by
      by_cases hkey : key = name
      · rw [hkey, get?_set_self, if_pos rfl, Option.some_or]
      · rw [get?_set_ne (Ne.symm hkey), if_neg hkey, Option.none_or]
    calc get? name (setAll bindings ((key, a) :: rest))
        = get? name (setAll (set key a bindings) rest) := rfl
      _ = (last? name rest).or (get? name (set key a bindings)) := ih _
      _ = (last? name ((key, a) :: rest)).or (get? name bindings) := by
        rw [hset, last?, Option.or_assoc]

theorem mem_names {name : String} {bindings : Bindings α} :
    name ∈ names bindings ↔ ∃ a, (name, a) ∈ bindings := by
  simp [names]

theorem last?_eq_none_iff {name : String} {entries : Bindings α} :
    last? name entries = none ↔ name ∉ names entries := by
  induction entries with
  | nil => simp [last?, names]
  | cons entry rest ih =>
    obtain ⟨key, a⟩ := entry
    rw [last?, Option.or_eq_none_iff, ih]
    simp [names, and_comm, eq_comm]

/-- A name that is bound once has one value, first and last. -/
theorem last?_eq_get? {name : String} {entries : Bindings α} (h : (names entries).Nodup) :
    last? name entries = get? name entries := by
  induction entries with
  | nil => rfl
  | cons entry rest ih =>
    obtain ⟨key, a⟩ := entry
    rw [names, List.map_cons, List.nodup_cons] at h
    rw [last?, get?, ih h.2]
    by_cases hkey : key = name
    · have hnone : get? name rest = none := by
        rw [← ih h.2, last?_eq_none_iff]
        exact hkey ▸ h.1
      rw [if_pos hkey, if_pos hkey, hnone, Option.none_or]
    · rw [if_neg hkey, if_neg hkey, Option.or_none]

/-! ## Distinct names -/

theorem mem_set {name : String} {a : α} {bindings : Bindings α} {entry : String × α}
    (h : entry ∈ set name a bindings) : entry = (name, a) ∨ entry ∈ bindings := by
  induction bindings with
  | nil => exact .inl (List.mem_singleton.mp h)
  | cons first rest ih =>
    obtain ⟨key, b⟩ := first
    rw [set] at h
    split at h
    · next hkey =>
      rcases List.mem_cons.mp h with rfl | h
      · exact .inl (by rw [hkey])
      · exact .inr (List.mem_cons_of_mem _ h)
    · rcases List.mem_cons.mp h with rfl | h
      · exact .inr List.mem_cons_self
      · exact (ih h).imp_right (List.mem_cons_of_mem _)

theorem mem_setAll {bindings entries : Bindings α} {entry : String × α}
    (h : entry ∈ setAll bindings entries) : entry ∈ entries ∨ entry ∈ bindings := by
  induction entries generalizing bindings with
  | nil => exact .inr h
  | cons first rest ih =>
    have h : entry ∈ setAll (set first.1 first.2 bindings) rest := h
    rcases ih h with h | h
    · exact .inl (List.mem_cons_of_mem _ h)
    · refine (mem_set h).imp_left (fun hentry => ?_)
      rw [hentry]
      exact List.mem_cons_self

theorem nodup_names_set {name : String} {a : α} {bindings : Bindings α}
    (h : (names bindings).Nodup) : (names (set name a bindings)).Nodup := by
  induction bindings with
  | nil => exact List.nodup_singleton name
  | cons first rest ih =>
    obtain ⟨key, b⟩ := first
    rw [names, List.map_cons, List.nodup_cons] at h
    rw [set]
    split
    · exact List.nodup_cons.mpr h
    · next hkey =>
      refine List.nodup_cons.mpr ⟨fun hmem => ?_, ih h.2⟩
      obtain ⟨c, hc⟩ := mem_names.mp hmem
      rcases mem_set hc with e | hc
      · exact hkey (congrArg Prod.fst e)
      · exact h.1 (mem_names.mpr ⟨c, hc⟩)

theorem nodup_names_setAll {bindings entries : Bindings α} (h : (names bindings).Nodup) :
    (names (setAll bindings entries)).Nodup := by
  induction entries generalizing bindings with
  | nil => exact h
  | cons first rest ih =>
    change (names (setAll (set first.1 first.2 bindings) rest)).Nodup
    exact ih (nodup_names_set h)

theorem nodup_names_erase {name : String} {bindings : Bindings α} (h : (names bindings).Nodup) :
    (names (erase name bindings)).Nodup :=
  h.sublist ((List.filter_sublist (l := bindings)).map Prod.fst)

end Bindings

end DynamicObjects
