import DynamicObjects.Proofs.Heap.Objects
import DynamicObjects.Rendering
import Mathlib.Data.Fintype.Pigeonhole
import Mathlib.Logic.Function.Iterate

/-! # Rendering along a path

    What the text of an object is, without a set and without a depth.  An array
    shows its elements, while it is on the path itself; one that is on the path
    already shows dots; one that is met off the path is shown in full.

    `Natives.Shows` gives the text or the fault, and `Natives.Stalls` says when
    there is neither: a truth value is met whose payloads go on for ever.

    Main results:
    - `World.boolText_eq_none_iff`: payloads go on for ever
    - `Natives.Shows.functional`: there is at most one text or fault
    - `Natives.Stalls.not_shows`: and none if a truth value is endless -/

namespace DynamicObjects

/-! ## Endless payloads -/

namespace World

variable {w : World} {o : ObjectId}

/-- The payloads of an object **go on for ever**: each is an object with another
    object as its payload. -/
def PayloadsForEver (w : World) (o : ObjectId) : Prop :=
  ∃ chain : Nat → ObjectId, chain 0 = o ∧
    ∀ i, w.payload? (chain i) = some (.object (chain (i + 1)))

/-- The object that is the payload of an object. -/
def payloadObject (w : World) (o : ObjectId) : ObjectId :=
  match w.payload? o with
  | some (.object p) => p
  | _ => o

/-- A search for the truth that runs out of depth has followed payloads all the
    way. -/
theorem payload?_iterate_of_truthWithin {depth : Nat}
    (h : w.truthWithin depth (.object o) = none) {i : Nat} (hi : i + 1 < depth) :
    w.payload? (w.payloadObject^[i] o) = some (.object (w.payloadObject^[i + 1] o)) := by
  -- Induction on the depth, with the object free: the search goes on at the payload.
  induction depth generalizing o i with
  | zero => omega
  | succ depth ih =>
    cases hv : w.payload? o with
    | none => simp [truthWithin, hv] at h
    | some v =>
      obtain ⟨depth, rfl⟩ : ∃ d, depth = d + 1 := ⟨depth - 1, by omega⟩
      simp only [truthWithin, hv] at h
      cases v with
      | object p =>
        have hp : w.payloadObject o = p := by rw [payloadObject, hv]
        cases i with
        | zero => rw [Function.iterate_one, Function.iterate_zero, id, hv, hp]
        | succ i =>
          rw [Function.iterate_succ_apply, Function.iterate_succ_apply _ (i + 1), hp]
          exact ih h (by omega)
      | _ => simp [truthWithin] at h

/-- Among more steps than there are objects two come to the same one. -/
theorem exists_iterate_eq {next : ObjectId → ObjectId} {n : Nat}
    (hlt : ∀ i ≤ n, (next^[i] o).index < n) : ∃ i j, i < j ∧ j ≤ n ∧ next^[i] o = next^[j] o := by
  have hmaps : ∀ i ∈ Finset.range (n + 1), (next^[i] o).index ∈ Finset.range n := by
    intro i hi
    exact Finset.mem_range.mpr (hlt i (Nat.lt_succ_iff.mp (Finset.mem_range.mp hi)))
  obtain ⟨i, hi, j, hj, hne, heq⟩ :=
    Finset.exists_ne_map_eq_of_card_lt_of_maps_to (by simp) hmaps
  have hsame : next^[i] o = next^[j] o := congrArg ObjectId.mk heq
  rw [Finset.mem_range] at hi hj
  rcases Nat.lt_or_gt_of_ne hne with hlt | hlt
  · exact ⟨i, j, hlt, by omega, hsame⟩
  · exact ⟨j, i, hlt, by omega, hsame.symm⟩

/-- Payloads that go on beyond the number of objects go on for ever, since they
    come back to one of them. -/
theorem payloadsForEver_of_iterate
    (h : ∀ i ≤ w.heap.size,
      w.payload? (w.payloadObject^[i] o) = some (.object (w.payloadObject^[i + 1] o))) :
    w.PayloadsForEver o := by
  obtain ⟨i, j, hij, hj, heq⟩ :=
    exists_iterate_eq fun i hi => index_lt_of_property?_eq_some (h i hi)
  -- What is met later on has been met before the second of the two.
  have hmet : ∀ k, ∃ m < j, w.payloadObject^[k] o = w.payloadObject^[m] o := by
    intro k
    induction k with
    | zero => exact ⟨0, by omega, rfl⟩
    | succ k ih =>
      obtain ⟨m, hm, hk⟩ := ih
      have hnext : w.payloadObject^[k + 1] o = w.payloadObject^[m + 1] o := by
        rw [Function.iterate_succ_apply', Function.iterate_succ_apply', hk]
      by_cases hlast : m + 1 = j
      · exact ⟨i, hij, by rw [hnext, hlast, heq]⟩
      · exact ⟨m + 1, by omega, hnext⟩
  refine ⟨fun k => w.payloadObject^[k] o, rfl, fun k => ?_⟩
  obtain ⟨m, hm, hk⟩ := hmet k
  show w.payload? (w.payloadObject^[k] o) = some (.object (w.payloadObject^[k + 1] o))
  rw [Function.iterate_succ_apply', hk, h m (by omega), Function.iterate_succ_apply']

theorem PayloadsForEver.truthWithin (h : w.PayloadsForEver o) (depth : Nat) :
    w.truthWithin depth (.object o) = none := by
  obtain ⟨chain, rfl, hchain⟩ := h
  have hnone : ∀ depth i, w.truthWithin depth (.object (chain i)) = none := by
    intro depth
    induction depth with
    | zero => exact fun _ => rfl
    | succ depth ih =>
      intro i
      rw [World.truthWithin, hchain i]
      exact ih (i + 1)
  exact hnone depth 0

/-- **A truth value has no text** exactly if its payloads go on for ever. -/
theorem boolText_eq_none_iff : Rendering.boolText w o = none ↔ w.PayloadsForEver o := by
  have hdeeper : Rendering.boolText w o = none ↔
      w.truthWithin (w.heap.size + 3) (.object o) = none := by
    rw [Rendering.boolText, World.truthWithin]
    cases w.payload? o with
    | none => simp
    | some v => simp [truth]
  rw [hdeeper]
  constructor
  · exact fun h => payloadsForEver_of_iterate fun i hi =>
      payload?_iterate_of_truthWithin h (by omega)
  · exact fun h => h.truthWithin _

end World

/-! ## The reference -/

namespace Natives

mutual

/-- **Reference**.  What an object shows in a world while the arrays of a path are
    being shown: a text or a fault, and the world after it. -/
inductive Shows (natives : Natives) : List ObjectId → TextForm → ObjectId → World →
    Except Fault String → World → Prop where
  | unsupported {path : List ObjectId} {form : TextForm} {o : ObjectId} {w : World}
      (h : form.handler? (w.typeOf o) = none) :
      Shows natives path form o w (.error (.slotUnsupported .str (w.typeName o))) w
  | native {path : List ObjectId} {form : TextForm} {o : ObjectId} {w w' : World} {slot : Slot}
      {name : String} {result : Except Fault String}
      (h : form.handler? (w.typeOf o) = some (slot, .native name))
      (hrun : Run.attempt (natives name o [] >>= Rendering.expectText slot) w = .done result w') :
      Shows natives path form o w result w'
  | alone {path : List ObjectId} {form : TextForm} {o : ObjectId} {w w' : World} {slot : Slot}
      {how : Rendering} {result : Except Fault String}
      (h : form.handler? (w.typeOf o) = some (slot, .rendering how)) (ho : how = .array → o ∈ path)
      (hrun : Run.attempt (how.alone o >>= Rendering.expectText slot) w = .done result w') :
      Shows natives path form o w result w'
  | noElements {path : List ObjectId} {form : TextForm} {o : ObjectId} {w : World} {slot : Slot}
      {f : Fault} (h : form.handler? (w.typeOf o) = some (slot, .rendering .array))
      (ho : o ∉ path) (hitems : w.items o = .error f) : Shows natives path form o w (.error f) w
  | elements {path : List ObjectId} {form : TextForm} {o : ObjectId} {w w' : World} {slot : Slot}
      {items : List Value} {result : Except Fault (List String)}
      (h : form.handler? (w.typeOf o) = some (slot, .rendering .array)) (ho : o ∉ path)
      (hitems : w.items o = .ok items) (hall : ShowsAll natives (o :: path) items w result w') :
      Shows natives path form o w
        (result.map fun texts => "[" ++ String.intercalate ", " texts ++ "]") w'

/-- The representations of the elements of an array, up to the first fault. -/
inductive ShowsAll (natives : Natives) : List ObjectId → List Value → World →
    Except Fault (List String) → World → Prop where
  | nil {path : List ObjectId} {w : World} : ShowsAll natives path [] w (.ok []) w
  | fault {path : List ObjectId} {v : Value} {rest : List Value} {w w' : World} {f : Fault}
      (hv : Shows natives path .representation (w.toObject v).1 (w.toObject v).2 (.error f) w') :
      ShowsAll natives path (v :: rest) w (.error f) w'
  | cons {path : List ObjectId} {v : Value} {rest : List Value} {w w₁ w' : World} {text : String}
      {result : Except Fault (List String)}
      (hv : Shows natives path .representation (w.toObject v).1 (w.toObject v).2 (.ok text) w₁)
      (hrest : ShowsAll natives path rest w₁ result w') :
      ShowsAll natives path (v :: rest) w (result.map (text :: ·)) w'

end

/-- An object **stalls**: itself or an element that is reached is a truth value
    whose payloads go on for ever. -/
inductive Stalls (natives : Natives) : List ObjectId → TextForm → ObjectId → World → Prop where
  | truth {path : List ObjectId} {form : TextForm} {o : ObjectId} {w : World} {slot : Slot}
      (h : form.handler? (w.typeOf o) = some (slot, .rendering .bool))
      (hpayloads : w.PayloadsForEver o) : Stalls natives path form o w
  | element {path : List ObjectId} {form : TextForm} {o : ObjectId} {w w₁ : World} {slot : Slot}
      {before after : List Value} {v : Value} {texts : List String}
      (h : form.handler? (w.typeOf o) = some (slot, .rendering .array)) (ho : o ∉ path)
      (hitems : w.items o = .ok (before ++ v :: after))
      (hbefore : ShowsAll natives (o :: path) before w (.ok texts) w₁)
      (hv : Stalls natives (o :: path) .representation (w₁.toObject v).1 (w₁.toObject v).2) :
      Stalls natives path form o w

/-- A value is shown as the object that it becomes, but raw text is its own text. -/
inductive ShowsValue (natives : Natives) : TextForm → Value → World → Except Fault String →
    World → Prop where
  | text {s : String} {w : World} : ShowsValue natives .plain (.text s) w (.ok s) w
  | object {form : TextForm} {v : Value} {w w' : World} {result : Except Fault String}
      (hv : form = .plain → ∀ s, v ≠ .text s)
      (h : Shows natives [] form (w.toObject v).1 (w.toObject v).2 result w') :
      ShowsValue natives form v w result w'

/-- A value stalls if the object does that it becomes. -/
def StallsValue (natives : Natives) (form : TextForm) (v : Value) (w : World) : Prop :=
  (form = .plain → ∀ s, v ≠ .text s) ∧ Stalls natives [] form (w.toObject v).1 (w.toObject v).2

section functional
variable {natives : Natives}

mutual

/-- **There is one answer** at most. -/
theorem Shows.functional {path : List ObjectId} {form : TextForm} {o : ObjectId}
    {w w₁ w₂ : World} {r₁ r₂ : Except Fault String} (h₁ : Shows natives path form o w r₁ w₁)
    (h₂ : Shows natives path form o w r₂ w₂) : r₁ = r₂ ∧ w₁ = w₂ := by
  -- The handler tells the rules apart, and for an array whether it is on the path.
  match h₁ with
  | .unsupported h | .native h _ | .alone h _ _ | .noElements h _ _ => cases h₂ <;> simp_all
  | .elements h ho hitems hall =>
    cases h₂ with
    | elements h' ho' hitems' hall' =>
      obtain rfl := Except.ok.inj (hitems.symm.trans hitems')
      obtain ⟨rfl, rfl⟩ := ShowsAll.functional hall hall'
      exact ⟨rfl, rfl⟩
    | _ => simp_all

theorem ShowsAll.functional {path : List ObjectId} {items : List Value}
    {w w₁ w₂ : World} {r₁ r₂ : Except Fault (List String)}
    (h₁ : ShowsAll natives path items w r₁ w₁) (h₂ : ShowsAll natives path items w r₂ w₂) :
    r₁ = r₂ ∧ w₁ = w₂ := by
  match h₁ with
  | .nil =>
    cases h₂
    exact ⟨rfl, rfl⟩
  | .fault hv =>
    cases h₂ with
    | fault hv' =>
      obtain ⟨hresult, rfl⟩ := Shows.functional hv hv'
      exact ⟨by rw [Except.error.inj hresult], rfl⟩
    | cons hv' hrest' => cases (Shows.functional hv hv').1
  | .cons hv hrest =>
    cases h₂ with
    -- An item that has shown cannot also fail.
    | fault hv' => cases (Shows.functional hv hv').1
    | cons hv' hrest' =>
      obtain ⟨hresult, rfl⟩ := Shows.functional hv hv'
      obtain ⟨rfl, rfl⟩ := ShowsAll.functional hrest hrest'
      exact ⟨by rw [Except.ok.inj hresult], rfl⟩

end

/-- What is shown of elements begins with what is shown of the first ones. -/
theorem ShowsAll.of_append {path : List ObjectId} {before after : List Value} {w w₁ w' : World}
    {texts : List String} {result : Except Fault (List String)}
    (h : ShowsAll natives path (before ++ after) w result w')
    (hbefore : ShowsAll natives path before w (.ok texts) w₁) :
    ∃ result', ShowsAll natives path after w₁ result' w' := by
  induction before generalizing w texts result with
  | nil =>
    cases hbefore
    exact ⟨result, h⟩
  | cons v rest ih =>
    -- `cases` needs a variable where `hbefore` has `.ok texts`.
    generalize hok : Except.ok texts = first at hbefore
    cases hbefore with
    | fault hv => cases hok
    | @cons _ _ _ _ _ _ _ first hv hrest =>
      cases first with
      | error f => cases hok
      | ok texts =>
        cases h with
        | fault hv' => cases (Shows.functional hv hv').1
        | cons hv' hrest' =>
          obtain ⟨-, rfl⟩ := Shows.functional hv hv'
          exact ih hrest' hrest

/-- **Nothing is shown** of an object that stalls. -/
theorem Stalls.not_shows {path : List ObjectId} {form : TextForm} {o : ObjectId} {w w' : World}
    {result : Except Fault String} (h : Stalls natives path form o w) :
    ¬ Shows natives path form o w result w' := by
  induction h generalizing result w' with
  | @truth path form o w slot h hpayloads =>
    intro hshows
    cases hshows with
    | @alone _ _ _ _ _ _ how _ h' ho' hrun =>
      obtain rfl : how = .bool := by simp_all
      have htext := World.boolText_eq_none_iff.mpr hpayloads
      simp only [Run.attempt, Run.bind_apply, Rendering.alone, Run.read_apply, id_eq, htext,
        Run.ofTerminating_none] at hrun
      cases hrun
    | _ => simp_all
  | element h ho hitems hbefore hv ih =>
    intro hshows
    cases hshows with
    | elements h' ho' hitems' hall' =>
      -- The elements in front are shown, and then it is the turn of the one that stalls.
      obtain rfl := Except.ok.inj (hitems.symm.trans hitems')
      obtain ⟨result', hrest⟩ := hall'.of_append hbefore
      cases hrest with
      | fault hv' => exact ih hv'
      | cons hv' _ => exact ih hv'
    | _ => simp_all

theorem ShowsValue.functional {form : TextForm} {v : Value} {w w₁ w₂ : World}
    {r₁ r₂ : Except Fault String} (h₁ : ShowsValue natives form v w r₁ w₁)
    (h₂ : ShowsValue natives form v w r₂ w₂) : r₁ = r₂ ∧ w₁ = w₂ := by
  cases h₁ with
  | text =>
    cases h₂ with
    | text => exact ⟨rfl, rfl⟩
    | object hv _ => exact absurd rfl (hv rfl _)
  | object hv h =>
    cases h₂ with
    | text => exact absurd rfl (hv rfl _)
    | object _ h' => exact h.functional h'

theorem StallsValue.not_shows {form : TextForm} {v : Value} {w w' : World}
    {result : Except Fault String} (h : StallsValue natives form v w) :
    ¬ ShowsValue natives form v w result w' := by
  intro hshows
  cases hshows with
  | text => exact h.1 rfl _ rfl
  | object _ hshows => exact h.2.not_shows hshows

end functional

end Natives

end DynamicObjects
