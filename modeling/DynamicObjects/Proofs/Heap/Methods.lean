import DynamicObjects.Proofs.Heap.Building

/-! # The methods of a new object

    An allocation installs the methods of a type one after the other, and a later
    one of the same name replaces an earlier one.  `World.Carries` says what the
    new object then holds: under each name the last method that is declared under
    it.  A shared method is one object for all; a native one is a function object
    of its own, bound to the new object.

    Main results:
    - `World.Carries.install`: what one installation adds
    - `World.allocate_carries`: what a new object carries -/

namespace DynamicObjects

theorem Bindings.last?_append {α : Type} (name : String) (entries others : Bindings α) :
    last? name (entries ++ others) = (last? name others).or (last? name entries) := by
  induction entries with
  | nil => simp [last?]
  | cons entry rest ih =>
    obtain ⟨key, a⟩ := entry
    rw [List.cons_append, last?, last?, ih, Option.or_assoc]

theorem Bindings.last?_concat {α : Type} (name key : String) (a : α) (entries : Bindings α) :
    last? name (entries ++ [(key, a)]) = if key = name then some a else last? name entries := by
  rw [last?_append, last?, last?, Option.none_or]
  split
  · rw [Option.some_or]
  · rw [Option.none_or]

/-- The function object of a bound method. -/
def functionObject (f : Function) : Object :=
  (Object.bare .function).setProperty payloadName (.function f)

namespace World

/-- The function that a native method becomes on a new object. -/
def boundMethod (ident : Nat) (o : ObjectId) (typeName name : String) (body : MethodBody) :
    Function :=
  ⟨ident, name, .bound o (typeName ++ "." ++ name) body⟩

/-- An object of type `T` with nothing but methods **carries** them: each name
    holds the last method under this name, and all objects behind it are their
    function objects. -/
structure Carries (w : World) (o : ObjectId) (T : TypeDescriptor) (methods : Bindings Method) :
    Prop where
  object : ∃ properties, w.object? o = some ⟨T, properties, false, false⟩
  shared : ∀ {name : String} {callable : ObjectId},
    Bindings.last? name methods = some (.shared callable) →
      w.property? o name = some (.object callable)
  native : ∀ {name : String} {body : MethodBody},
    Bindings.last? name methods = some (.native body) →
      ∃ m ident, o.index < m.index ∧ w.property? o name = some (.object m) ∧
        w.object? m = some (functionObject (boundMethod ident o T.name name body))
  nothing : ∀ {name : String}, Bindings.last? name methods = none → w.property? o name = none
  others : ∀ {p : ObjectId}, o.index < p.index → p.index < w.heap.size →
    ∃ f, w.object? p = some (functionObject f)

section install
variable {w : World} {o : ObjectId} {T : TypeDescriptor} {methods : Bindings Method}

theorem Carries.index_lt (h : w.Carries o T methods) : o.index < w.heap.size := by
  obtain ⟨properties, hx⟩ := h.object
  exact index_lt_of_object?_eq_some hx

theorem Carries.isAlive (h : w.Carries o T methods) : w.isAlive o = true := by
  obtain ⟨properties, hx⟩ := h.object
  rw [World.isAlive, hx]
  rfl

/-- More objects do not matter, as long as they are function objects. -/
theorem Carries.add (h : w.Carries o T methods) (f : Function) :
    (w.add (functionObject f)).2.Carries o T methods := by
  have hkept : ∀ {p : ObjectId}, p.index < w.heap.size →
      (w.add (functionObject f)).2.object? p = w.object? p := fun hp => object?_add_old w _ hp
  have hproperty : ∀ name, (w.add (functionObject f)).2.property? o name = w.property? o name := by
    intro name
    rw [property?, property?, World.object, World.object, hkept h.index_lt]
  -- All that is known so far lies in old places; the new one holds a function object.
  constructor
  · rw [hkept h.index_lt]
    exact h.object
  · intro name callable hlast
    rw [hproperty]
    exact h.shared hlast
  · intro name body hlast
    obtain ⟨m, ident, hlt, hm, hx⟩ := h.native hlast
    refine ⟨m, ident, hlt, (hproperty name).trans hm, ?_⟩
    rw [hkept (index_lt_of_object?_eq_some hx)]
    exact hx
  · intro name hlast
    rw [hproperty]
    exact h.nothing hlast
  · intro p hlt hp
    rw [object?_add]
    split
    · exact ⟨f, rfl⟩
    · next hne =>
      rw [size_add] at hp
      exact h.others hlt (by omega)

/-- One more method takes the place of those of its name.  A native one has its
    function object already. -/
theorem Carries.set (h : w.Carries o T methods) {name : String} {method : Method} {v : Value}
    (hshared : ∀ callable, method = .shared callable → v = .object callable)
    (hnative : ∀ body, method = .native body → ∃ m ident, o.index < m.index ∧ v = .object m ∧
      w.object? m = some (functionObject (boundMethod ident o T.name name body))) :
    (w.setProperty o name v).Carries o T (methods ++ [(name, method)]) := by
  -- Function objects lie behind `o`, and only `o` changes.
  have hself : (w.setProperty o name v).property? o name = some v :=
    property?_setProperty_self w h.isAlive name v
  have hother : ∀ {other : String}, ¬ name = other →
      (w.setProperty o name v).property? o other = w.property? o other :=
    fun hne => property?_setProperty_ne w o (Ne.symm hne) v
  have hkept : ∀ {p : ObjectId}, o.index < p.index →
      (w.setProperty o name v).object? p = w.object? p := by
    intro p hlt
    refine object?_update_ne w ?_ _
    rintro rfl
    exact Nat.lt_irrefl _ hlt
  constructor
  · obtain ⟨properties, hx⟩ := h.object
    refine ⟨properties.set name v, ?_⟩
    rw [setProperty, object?_update_self, hx]
    rfl
  · intro other callable hlast
    rw [Bindings.last?_concat] at hlast
    split at hlast
    · next heq =>
      rw [← heq, hself, hshared callable (Option.some.inj hlast)]
    · next hne =>
      rw [hother hne]
      exact h.shared hlast
  · intro other body hlast
    rw [Bindings.last?_concat] at hlast
    split at hlast
    · next heq =>
      obtain ⟨m, ident, hlt, rfl, hx⟩ := hnative body (Option.some.inj hlast)
      subst heq
      exact ⟨m, ident, hlt, hself, (hkept hlt).trans hx⟩
    · next hne =>
      obtain ⟨m, ident, hlt, hm, hx⟩ := h.native hlast
      exact ⟨m, ident, hlt, (hother hne).trans hm, (hkept hlt).trans hx⟩
  · intro other hlast
    rw [Bindings.last?_concat] at hlast
    split at hlast
    · cases hlast
    · next hne =>
      rw [hother hne]
      exact h.nothing hlast
  · intro p hlt hp
    rw [hkept hlt]
    rw [size_setProperty] at hp
    exact h.others hlt hp

/-- **Step**: the installation of a method. -/
theorem Carries.install (h : w.Carries o T methods) (entry : String × Method) :
    (w.install o T.name entry).Carries o T (methods ++ [entry]) := by
  obtain ⟨name, method⟩ := entry
  cases method with
  | shared callable =>
    refine h.set (fun _ heq => ?_) (fun _ heq => by cases heq)
    rw [Method.shared.inj heq]
  | native body =>
    -- The function object is the next one on the heap.
    have hident : w.freshIdent.2.Carries o T methods :=
      ⟨h.object, h.shared, h.native, h.nothing, h.others⟩
    have hadded := hident.add (boundMethod w.nextIdent o T.name name body)
    refine hadded.set (fun _ heq => by cases heq) fun other heq => ?_
    obtain rfl := Method.native.inj heq
    exact ⟨⟨w.heap.size⟩, w.nextIdent, h.index_lt, rfl, object?_add_self _ _⟩

theorem Carries.install_all (h : w.Carries o T methods) (entries : Bindings Method) :
    (entries.foldl (World.install o T.name) w).Carries o T (methods ++ entries) := by
  induction entries generalizing w methods with
  | nil =>
    rw [List.append_nil]
    exact h
  | cons entry rest ih =>
    have hrest := ih (h.install entry)
    rw [List.append_assoc] at hrest
    exact hrest

/-- **A new object** carries the methods of its type. -/
theorem allocate_carries (w : World) (T : TypeDescriptor) :
    (w.allocate T).2.Carries ⟨w.heap.size⟩ T T.methods := by
  have hbare : (w.add (.bare T)).2.object? ⟨w.heap.size⟩ = some (.bare T) := object?_add_self w _
  have hnothing : (w.add (.bare T)).2.Carries ⟨w.heap.size⟩ T [] := by
    constructor
    · exact ⟨[], hbare⟩
    · intro name callable hlast
      cases hlast
    · intro name body hlast
      cases hlast
    · intro name _
      rw [property?, World.object, hbare]
      rfl
    · intro p hlt hp
      rw [size_add] at hp
      exact absurd hlt (by simp only; omega)
  exact hnothing.install_all T.methods

end install

end World

end DynamicObjects
