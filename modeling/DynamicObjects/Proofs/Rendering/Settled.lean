import DynamicObjects.Proofs.Conversion.RoundTrip
import DynamicObjects.Proofs.Rendering.Replies

/-! # Texts without side effects

    If the handlers of the host that are met have no side effects, a value has one
    text, or one fault, or none for ever.  It does not matter whether the value is
    shown itself or an object that it has been converted to, nor which objects have
    been made in the meantime.

    The argument:
    1. What is met is an old object, or it has been made by a conversion since:
       `World.StandsFor` says of an object that it stands for a value of the world
       at the start, when it is its turn to be shown.
    2. All objects that stand for a value along a path give the same reply:
       `Natives.Settles`.  By induction on the old arrays that are not on the path
       yet, and then on the size of the value.
    3. There is enough depth in each case.

    Main results:
    - `Natives.exists_settles`: there is one reply
    - `Natives.render_settled`: it is what rendering ends with -/

namespace DynamicObjects

open Showing

/-! ## What is met -/

namespace World

/-- An object is **met** when a value is shown: it is the value, or it is met from an
    item of the list, or from an element of the object. -/
inductive Meets (w : World) : Value → ObjectId → Prop where
  | self (o : ObjectId) : Meets w (.object o) o
  | item {items : List Value} {u : Value} {o : ObjectId} (hu : u ∈ items) (h : Meets w u o) :
      Meets w (.list items) o
  | element {p : ObjectId} {items : List Value} {u : Value} {o : ObjectId}
      (hshows : (w.typeOf p).ShowsElements) (hitems : w.items p = .ok items) (hu : u ∈ items)
      (h : Meets w u o) : Meets w (.object p) o

/-- A number **limits** the sizes of all elements. -/
def LimitsItems (w : World) (limit : Nat) : Prop :=
  ∀ p items, w.items p = .ok items → ∀ u ∈ items, u.size ≤ limit

section met
variable {w w₁ : World} {p o : ObjectId} {items : List Value} {v u : Value}

theorem Grounded.references_of_items (h : w.Grounded) (hitems : w.items p = .ok items)
    (hu : u ∈ items) : ∀ q ∈ u.references, q.index < w.heap.size := by
  have hreferences := h.references_lt (payload?_of_items hitems)
  rw [Value.references] at hreferences
  exact fun q hq => hreferences q (Value.references_subset_of_mem hu hq)

/-- What is met exists or has existed. -/
theorem Meets.index_lt (h : w.Meets v o) (hgrounded : w.Grounded)
    (hv : ∀ p ∈ v.references, p.index < w.heap.size) : o.index < w.heap.size := by
  induction h with
  | self o => exact hv o List.mem_cons_self
  | item hu _ ih =>
    rw [Value.references] at hv
    exact ih fun p hp => hv p (Value.references_subset_of_mem hu hp)
  | element _ hitems hu _ ih =>
    exact ih (hgrounded.references_of_items hitems hu)

/-- Growth adds nothing to old arrays, so their elements are no greater than all
    together. -/
theorem Grows.limitsItems (hgrows : w.Grows w₁) : w.LimitsItems w₁.weight := by
  intro p items hitems u hu
  have hpayload := payload?_of_items hitems
  rw [← hgrows.payload?_eq (index_lt_of_property?_eq_some hpayload)] at hpayload
  exact Nat.le_of_lt (Nat.lt_of_lt_of_le (Value.IsElement.list hu).size_lt
    (size_le_weight hpayload))

end met

end World

/-- The handlers of the host that show an object are **quiet** if they have no side
    effects: they change no object, and they reply the same whatever objects have
    been made. -/
def Natives.Quiet (natives : Natives) (w : World) (o : ObjectId) : Prop :=
  ∀ {form : TextForm} {slot : Slot} {name : String},
    form.handler? (w.typeOf o) = some (slot, .native name) →
      ∃ reply : Reply String, ∀ {w₁ : World}, w.Grows w₁ →
        ((natives name o [] >>= Rendering.expectText slot) w₁).reply = reply ∧
          ∀ {w₂ : World}, ((∃ v, natives name o [] w₁ = .done v w₂) ∨
            ∃ f, natives name o [] w₁ = .raised f w₂) → w₁.Grows w₂

/-! ## Values that are shown by themselves -/

/-- The text of an object that holds a value and is shown by the handler that goes with
    the kind of this value.  Lists and objects have none of their own. -/
def Value.ownText? (form : TextForm) : Value → Option String
  | .null => some "null"
  | .bool b => some (if b then "true" else "false")
  | .int n => some (String.ofList (integerText n.toInt))
  | .float x => some (String.ofList x.text)
  | .complex z => some (String.ofList z.text)
  | .text s => if form = .plain then some s else some (String.ofList (Quoted.encode s.toList))
  | .function f => some ("<function '" ++ f.name ++ "'>")
  | .dict _ => some ("<AIL wrapper of '" ++ "dict" ++ "'>")
  | .foreign v => some ("<AIL wrapper of '" ++ v.typeName ++ "'>")
  | .list _ | .object _ => none

section own
variable {w : World} {o : ObjectId} {u : Value} {form : TextForm} {text : String}

/-- It is shown without a look at anything else. -/
theorem exists_alone_ownText
    (hkind : form.handler? (w.typeOf o) = form.handler? (w.typeOfKind u))
    (hpayload : w.payload? o = some u) (htext : u.ownText? form = some text) :
    ∃ slot how, form.handler? (w.typeOf o) = some (slot, .rendering how) ∧ how ≠ .array ∧
      how.alone o w = .done (.text text) w := by
  rw [hkind]
  -- By the kind of the value: each has a rendering of its own, which reads the payload
  -- alone.
  cases u with
  | null =>
    obtain rfl := Option.some.inj htext
    cases form <;> exact ⟨_, .null, rfl, by decide, rfl⟩
  | bool b =>
    obtain rfl := Option.some.inj htext
    have hbool : Rendering.boolText w o = some (if b then "true" else "false") := by
      rw [Rendering.boolText, hpayload]
      rfl
    have halone : Rendering.bool.alone o w = .done (.text (if b then "true" else "false")) w := by
      rw [Rendering.alone, Run.bind_apply, Run.read_apply]
      simp only [id_eq, Run.bind_apply, hbool, Run.ofTerminating_some, Run.pure_apply]
    cases form <;> exact ⟨_, .bool, rfl, by decide, halone⟩
  | int n =>
    obtain rfl := Option.some.inj htext
    have hnumber : Rendering.numberText w o .integer = integerText n.toInt := by
      unfold Rendering.numberText
      rw [hpayload]
    cases form <;> exact ⟨_, .integer, rfl, by decide,
      congrArg (fun cs => Outcome.done (Value.ofChars cs) w) hnumber⟩
  | float x =>
    obtain rfl := Option.some.inj htext
    have hnumber : Rendering.numberText w o .float = x.text := by
      unfold Rendering.numberText
      rw [hpayload]
    cases form <;> exact ⟨_, .float, rfl, by decide,
      congrArg (fun cs => Outcome.done (Value.ofChars cs) w) hnumber⟩
  | complex z =>
    obtain rfl := Option.some.inj htext
    have hnumber : Rendering.numberText w o .complex = z.text := by
      unfold Rendering.numberText
      rw [hpayload]
    cases form <;> exact ⟨_, .complex, rfl, by decide,
      congrArg (fun cs => Outcome.done (Value.ofChars cs) w) hnumber⟩
  | text s =>
    have hplain : Rendering.textOf w o = s := by rw [Rendering.textOf, hpayload]
    cases form with
    | plain =>
      rw [Value.ownText?, if_pos rfl] at htext
      have hrun : Rendering.text.alone o w = .done (.text (Rendering.textOf w o)) w := rfl
      rw [hplain, Option.some.inj htext] at hrun
      exact ⟨_, .text, rfl, by decide, hrun⟩
    | representation =>
      rw [Value.ownText?, if_neg (by decide)] at htext
      have hrun : Rendering.quotedText.alone o w =
          .done (Value.ofChars (Quoted.encode (Rendering.textOf w o).toList)) w := rfl
      rw [hplain, Value.ofChars, Option.some.inj htext] at hrun
      exact ⟨_, .quotedText, rfl, by decide, hrun⟩
  | function f =>
    rw [Value.ownText?] at htext
    have hfunction : Rendering.functionText w o = "<function '" ++ f.name ++ "'>" := by
      unfold Rendering.functionText
      rw [hpayload]
    have hrun : Rendering.function.alone o w = .done (.text (Rendering.functionText w o)) w := rfl
    rw [hfunction, Option.some.inj htext] at hrun
    cases form <;> exact ⟨_, .function, rfl, by decide, hrun⟩
  | dict _ | foreign _ =>
    rw [Value.ownText?] at htext
    have hwrapper : Rendering.wrapperText w o = text := by
      have hkind := congrArg (fun v => (v.map w.kindName).getD "null") hpayload
      unfold Rendering.wrapperText
      exact (congrArg (fun kind => "<AIL wrapper of '" ++ kind ++ "'>") hkind).trans
        (Option.some.inj htext)
    have hrun : Rendering.wrapper.alone o w = .done (.text (Rendering.wrapperText w o)) w := rfl
    rw [hwrapper] at hrun
    cases form <;> exact ⟨_, .wrapper, rfl, by decide, hrun⟩
  | list _ | object _ => cases htext

end own

/-! ## What stands for a value -/

/-- An object **stands for** a value of an earlier world when it is shown while the
    arrays of a path are being shown: it is what the value has become, and new arrays
    are not being shown yet. -/
structure World.StandsFor (w : World) (path : List ObjectId) (u : Value) (levels : Nat)
    (o : ObjectId) (shown : ObjectSet) (w₁ : World) : Prop where
  grows : w.Grows w₁
  conversion : w₁.IsConversion w.heap.size o u
  within : w₁.Within w.heap.size levels o
  holds : ∀ p, w.Meets u p → shown.contains p = decide (p ∈ path)
  fresh : ∃ lo hi, w.heap.size ≤ lo ∧ lo ≤ w₁.heap.size ∧ shown.FreeFrom lo ∧
    w₁.IsInOrder lo hi o u

/-- A value **settles** for a reply if all objects that stand for it give this
    reply, at a depth that suffices. -/
def Natives.Settles (natives : Natives) (w : World) (path : List ObjectId) (form : TextForm)
    (u : Value) (reply : Reply String) : Prop :=
  ∀ {limit levels : Nat} {o : ObjectId} {shown : ObjectSet} {w₁ : World} {depth : Nat},
    w.LimitsItems limit → w.StandsFor path u levels o shown w₁ →
      World.unshown w.heap.size path * (limit + 2) + levels < depth →
        (natives.showObject depth form o).Replies shown w₁ reply

section standsFor
variable {w w₁ : World} {path : List ObjectId} {u : Value} {levels : Nat} {o : ObjectId}
    {shown : ObjectSet}

namespace World

/-- **An element**, when it is its turn, is converted to an object that stands for
    it. -/
theorem standsFor_toObject (hsingletons : ∀ s ∈ singletons, s.index < w.heap.size)
    (hu : ∀ p ∈ u.references, p.index < w.heap.size) (hgrows : w.Grows w₁)
    (hfree : shown.FreeFrom w₁.heap.size)
    (hholds : ∀ p, w.Meets u p → shown.contains p = decide (p ∈ path)) :
    w.StandsFor path u u.size (w₁.toObject u).1 shown (w₁.toObject u).2 := by
  have hconversion : (w₁.toObject u).2.IsConversion w.heap.size (w₁.toObject u).1 u :=
    toObject_isConversion u hgrows.size_le
  have hconverted := w₁.toObject_grows u
  exact ⟨hgrows.trans hconverted, hconversion,
    within_of_isConversion hsingletons u hu hconversion, hholds,
    w₁.heap.size, (w₁.toObject u).2.heap.size, hgrows.size_le, hconverted.size_le, hfree,
    w₁.toObject_isInOrder u⟩

/-- What is not met makes no difference on the path. -/
theorem StandsFor.cons {p : ObjectId} (h : w.StandsFor path u levels o shown w₁)
    (hp : ¬ w.Meets u p) : w.StandsFor (p :: path) u levels o shown w₁ where
  grows := h.grows
  conversion := h.conversion
  within := h.within
  holds q hq := by
    have hne : q ≠ p := by
      rintro rfl
      exact hp hq
    rw [h.holds q hq]
    simp [hne]
  fresh := h.fresh

/-- What a list has become, item by item. -/
theorem forall₂_conversions {start lo hi : Nat} {os : List ObjectId} {items : List Value}
    (hos : w.AreConversions start os items) (horders : w.AreInOrder lo hi os items) :
    List.Forall₂ (fun o u => w.IsConversion start o u ∧ w.IsInOrder lo hi o u) os items := by
  induction items generalizing lo os with
  | nil =>
    obtain rfl : os = [] := hos
    exact .nil
  | cons u rest ih =>
    rw [AreConversions] at hos
    obtain ⟨o, os, rfl, hfirst, hrest⟩ := hos
    rw [AreInOrder] at horders
    obtain ⟨o', os', mid, heq, hlo, hhi, horder, horders⟩ := horders
    obtain ⟨rfl, rfl⟩ := List.cons.inj heq
    exact .cons ⟨hfirst, horder.widen (Nat.le_refl lo) hhi⟩
      ((ih hrest horders).imp fun _ _ h => ⟨h.1, h.2.widen hlo (Nat.le_refl hi)⟩)

/-- A new array shows its elements with one level less. -/
theorem Within.of_array {n : Nat} {os : List ObjectId} (h : w.Within n levels o)
    (hnew : n ≤ o.index) (htype : w.typeOf o = .array)
    (hpayload : w.payload? o = some (.list (os.map .object))) :
    ∃ levels', levels = levels' + 1 ∧ ∀ p ∈ os, w.Within n levels' p := by
  cases h with
  | old hold => exact absurd hold (Nat.not_lt_of_le hnew)
  | alone _ hnot => exact absurd (htype ▸ isArrayType_array.1) hnot
  | @array levels' _ os' _ _ hpayload' hos' =>
    obtain rfl := eq_of_payload_objects hpayload hpayload'
    exact ⟨levels', rfl, hos'⟩

/-- The items of a list stand for themselves while the new array is being shown. -/
theorem StandsFor.items {items : List Value} (hgrounded : w.Grounded)
    (hitems : ∀ q ∈ (Value.list items).references, q.index < w.heap.size)
    (h : w.StandsFor path (.list items) levels o shown w₁) :
    ∃ levels' os, levels = levels' + 1 ∧ shown.contains o = false ∧ w₁.typeOf o = .array ∧
      w₁.items o = .ok (os.map .object) ∧
      List.Forall₂ (fun p u => u ∈ items ∧ ∀ shown₂ w₂, shown₂.Same (shown.insert o) →
        w₁.Grows w₂ → w.StandsFor path u levels' p shown₂ w₂) os items := by
  obtain ⟨lo, hi, hlo, hle, hfree, horder⟩ := h.fresh
  have hconversion := h.conversion
  rw [IsConversion] at hconversion
  obtain ⟨hnew, htype, os, hpayload, hos⟩ := hconversion
  rw [IsInOrder] at horder
  obtain ⟨hfirst, -, os', hpayload', horders⟩ := horder
  -- The conversion and the order speak of the same payload, hence of the same objects.
  obtain rfl := eq_of_payload_objects hpayload hpayload'
  obtain ⟨levels', rfl, hlevels⟩ := h.within.of_array hnew htype hpayload
  have hpairs := forall₂_conversions hos horders
  rw [List.forall₂_iff_zip] at hpairs
  refine ⟨levels', os, rfl, hfree o hfirst, htype, by rw [World.items, hpayload],
    List.forall₂_iff_zip.mpr ⟨hpairs.1, fun {p u} hpair => ?_⟩⟩
  obtain ⟨hp, hu⟩ := List.of_mem_zip hpair
  obtain ⟨hpu, hpo⟩ := hpairs.2 hpair
  refine ⟨hu, fun shown₂ w₂ hsame hgrows => ?_⟩
  constructor
  case grows => exact h.grows.trans hgrows
  case conversion => exact hpu.mono (Nat.le_refl _) (hgrows.keepsFrom _) u
  case within => exact (hlevels p hp).steady hgrows.steady
  case holds =>
    intro q hq
    have hmet : w.Meets (.list items) q := .item hu hq
    -- What is met from an item is an old object, and the array is a new one.
    have hne : o ≠ q := by
      rintro rfl
      have hlt := hmet.index_lt hgrounded hitems
      omega
    rw [hsame q, ObjectSet.contains_insert, h.holds q hmet]
    simp [hne]
  case fresh =>
    have hlt := index_lt_of_property?_eq_some hpayload
    have hsize := hgrows.size_le
    exact ⟨o.index + 1, hi, by omega, by omega, (hfree.insert hfirst).same hsame,
      hpo.mono (hgrows.keepsFrom _) u⟩

end World

end standsFor

/-! ## Values that settle -/

namespace Natives

variable {natives : Natives} {w : World} {path : List ObjectId} {form : TextForm} {p : ObjectId}

/-- What is shown without elements, and so without more depth. -/
theorem settles_of_alone {u : Value} {reply : Reply String}
    (h : ∀ {levels o shown w₁ depth}, w.StandsFor path u levels o shown w₁ →
      (natives.showObject (depth + 1) form o).Replies shown w₁ reply) :
    natives.Settles w path form u reply := by
  intro limit levels o shown w₁ depth _ hstands hdepth
  obtain ⟨depth, rfl⟩ : ∃ d, depth = d + 1 := ⟨depth - 1, by omega⟩
  exact h hstands

/-- A value settles for the same without an object on the path that it does not meet. -/
theorem Settles.of_cons {u : Value} {reply : Reply String}
    (h : natives.Settles w (p :: path) form u reply) (hp : ¬ w.Meets u p) :
    natives.Settles w path form u reply := by
  intro limit levels o shown w₁ depth hlimit hstands hdepth
  refine h hlimit (hstands.cons hp) ?_
  have hle := Nat.mul_le_mul_right (limit + 2) (World.unshown_cons_le w.heap.size p path)
  omega

/-- **An old array** that is not on the path replies as its elements do. -/
theorem settles_array {slot : Slot} {items : List Value} {replyOf : Value → Reply String}
    (hgrounded : w.Grounded) (hlt : p.index < w.heap.size)
    (hhandler : form.handler? (w.typeOf p) = some (slot, .rendering .array)) (hp : p ∉ path)
    (hitems : w.items p = .ok items)
    (h : ∀ u ∈ items, natives.Settles w (p :: path) .representation u (replyOf u)) :
    natives.Settles w path form (.object p) (Reply.all replyOf items).bracketed := by
  intro limit levels o shown w₁ depth hlimit hstands hdepth
  obtain rfl : o = p := hstands.conversion
  obtain ⟨depth, rfl⟩ : ∃ d, depth = d + 1 := ⟨depth - 1, by omega⟩
  obtain ⟨lo, hi, hlo, hle, hfree, -⟩ := hstands.fresh
  have hnot : shown.contains o = false := by
    rw [hstands.holds o (.self o)]
    exact decide_eq_false hp
  have hhandler₁ := hhandler
  rw [← hstands.grows.typeOf_eq hlt] at hhandler₁
  refine replies_elements hhandler₁ hnot ((hstands.grows.items_eq hlt).trans hitems) ?_
  refine showAll_replies (List.forall₂_same.mpr fun u hu shown₂ w₂ hsame hgrows => ?_) (.refl _)
    (.refl _)
  -- Each element is converted, and then it is shown along the path that the array has joined.
  have hfree₂ : shown₂.FreeFrom w₂.heap.size := by
    have hlater := hfree.mono (Nat.le_trans hle hgrows.size_le)
    exact (hlater.insert_old (Nat.lt_of_lt_of_le hlt (hstands.grows.trans hgrows).size_le)).same
      hsame
  have hholds : ∀ q, w.Meets u q → shown₂.contains q = decide (q ∈ o :: path) := by
    intro q hq
    rw [hsame q, ObjectSet.contains_insert,
      hstands.holds q (.element ⟨form, slot, hhandler⟩ hitems hu hq)]
    simp [eq_comm]
  have hstands₂ := World.standsFor_toObject (fun s hs => (hgrounded.singletons s hs).1)
    (hgrounded.references_of_items hitems hu) (hstands.grows.trans hgrows) hfree₂ hholds
  have hsize := hlimit o items hitems u hu
  have hleft := unshown_cons_depth hp (.inl ⟨hlt, rfl⟩) hdepth
  exact replies_showElement (h u hu hlimit hstands₂ (by omega))

/-- **A list** replies as its items do, since the new array is not being shown. -/
theorem settles_list {items : List Value} {replyOf : Value → Reply String}
    (hgrounded : w.Grounded) (hitems : ∀ q ∈ (Value.list items).references, q.index < w.heap.size)
    (h : ∀ u ∈ items, natives.Settles w path .representation u (replyOf u)) :
    natives.Settles w path form (.list items) (Reply.all replyOf items).bracketed := by
  intro limit levels o shown w₁ depth hlimit hstands hdepth
  obtain ⟨depth, rfl⟩ : ∃ d, depth = d + 1 := ⟨depth - 1, by omega⟩
  obtain ⟨levels, os, rfl, hnot, htype, hos, hstands⟩ := hstands.items hgrounded hitems
  have hhandler : ∃ slot, form.handler? (w₁.typeOf o) = some (slot, .rendering .array) := by
    rw [htype]
    cases form <;> exact ⟨_, rfl⟩
  obtain ⟨slot, hhandler⟩ := hhandler
  refine replies_elements hhandler hnot hos ?_
  refine showAll_replies ?_ (.refl _) (.refl _)
  rw [List.forall₂_map_left_iff]
  refine hstands.imp fun p u ⟨hu, hstands⟩ shown₂ w₂ hsame hgrows => ?_
  exact replies_showElement (h u hu hlimit (hstands shown₂ w₂ hsame hgrows) (by omega))

/-- What shows an old object by itself shows what becomes that object. -/
theorem settles_old {slot : Slot} {how : Rendering} {u : Value} (hgrounded : w.Grounded)
    (hlt : p.index < w.heap.size)
    (hhandler : form.handler? (w.typeOf p) = some (slot, .rendering how)) (harray : how ≠ .array)
    (hu : ∀ {o : ObjectId} {w₁ : World}, w₁.IsConversion w.heap.size o u → o = p) :
    natives.Settles w path form u
      ((how.alone p >>= Rendering.expectText slot) w).reply := by
  refine settles_of_alone fun {levels o shown w₁ depth} hstands => ?_
  obtain rfl := hu hstands.conversion
  rw [← hstands.grows.typeOf_eq hlt] at hhandler
  rw [← Rendering.alone_reply hstands.grows hgrounded hlt how]
  exact replies_alone hhandler fun h => harray h.1

/-- An old object that is shown without its elements is so in every grown world. -/
theorem settles_object {reply : Reply String} (hlt : p.index < w.heap.size)
    (h : ∀ {shown w₁ depth}, w.Grows w₁ → w₁.typeOf p = w.typeOf p →
      shown.contains p = decide (p ∈ path) →
        (natives.showObject (depth + 1) form p).Replies shown w₁ reply) :
    natives.Settles w path form (.object p) reply := by
  refine settles_of_alone fun {levels o shown w₁ depth} hstands => ?_
  obtain rfl : o = p := hstands.conversion
  exact h hstands.grows (hstands.grows.typeOf_eq hlt) (hstands.holds o (.self o))

/-- **An object** settles if its elements do along the path that it joins. -/
theorem exists_settles_object (hgrounded : w.Grounded) (hlt : p.index < w.heap.size)
    (hquiet : natives.Quiet w p) (path : List ObjectId) (form : TextForm)
    (h : ∀ {items}, (w.typeOf p).ShowsElements → w.items p = .ok items → p ∉ path →
      ∀ u ∈ items, ∃ reply, natives.Settles w (p :: path) .representation u reply) :
    ∃ reply, natives.Settles w path form (.object p) reply := by
  cases hhandler : form.handler? (w.typeOf p) with
  | none =>
    refine ⟨.fault (.slotUnsupported .str (w.typeName p)), settles_object hlt ?_⟩
    intro shown w₁ depth _ htype _
    rw [World.typeName, ← htype]
    exact replies_unsupported (by rw [htype, hhandler])
  | some entry =>
    obtain ⟨slot, handler⟩ := entry
    cases handler with
    | native name =>
      obtain ⟨reply, hreply⟩ := hquiet hhandler
      refine ⟨reply, settles_object hlt fun hgrows htype _ => ?_⟩
      obtain ⟨rfl, hend⟩ := hreply hgrows
      exact replies_native (by rw [htype, hhandler]) hend
    | rendering how =>
      by_cases harray : how = .array
      · subst harray
        by_cases hp : p ∈ path
        -- It is being shown already, so that dots stand for its elements.
        · refine ⟨.result "[...]", settles_object hlt fun _ htype hshown => ?_⟩
          rw [decide_eq_true hp] at hshown
          exact replies_alone (by rw [htype, hhandler]) fun h => by rw [hshown] at h; cases h.2
        · cases hitems : w.items p with
          | error f =>
            refine ⟨.fault f, settles_object hlt fun hgrows htype hshown => ?_⟩
            rw [decide_eq_false hp] at hshown
            exact replies_noElements (by rw [htype, hhandler]) hshown
              (by rw [hgrows.items_eq hlt, hitems])
          | ok items =>
            have hall := h ⟨form, slot, hhandler⟩ hitems hp
            choose! replyOf hreply using hall
            exact ⟨_, settles_array hgrounded hlt hhandler hp hitems hreply⟩
      · exact ⟨_, settles_old hgrounded hlt hhandler harray id⟩

/-- What becomes an object that is shown by the kind of its payload shows the text of
    this payload. -/
theorem settles_ownText {u v : Value} {text : String} (htext : u.ownText? form = some text)
    (h : ∀ {o : ObjectId} {w₁ : World}, w.Grows w₁ → w₁.IsConversion w.heap.size o v →
      form.handler? (w₁.typeOf o) = form.handler? (w₁.typeOfKind u) ∧ w₁.payload? o = some u) :
    natives.Settles w path form v (.result text) := by
  refine settles_of_alone fun {levels o shown w₁ depth} hstands => ?_
  obtain ⟨hkind, hpayload⟩ := h hstands.grows hstands.conversion
  obtain ⟨slot, how, hhandler, harray, halone⟩ := exists_alone_ownText hkind hpayload htext
  have hreplies : (natives.showObject (depth + 1) form o).Replies shown w₁
      ((how.alone o >>= Rendering.expectText slot) w₁).reply :=
    replies_alone hhandler fun h => harray h.1
  rw [Run.bind_apply, halone] at hreplies
  exact hreplies

/-- Raw values that become new objects are such values. -/
theorem settles_raw {u : Value} {text : String} (htext : u.ownText? form = some text)
    (hnew : (World.typeFor? u).isSome = true) :
    natives.Settles w path form u (.result text) := by
  refine settles_ownText htext fun _ hconversion => ?_
  cases u with
  | null | bool _ => cases hnew
  | list _ | object _ => cases htext
  | _ => exact ⟨congrArg form.handler? (Option.some.inj hconversion.2.1).symm, hconversion.2.2⟩

/-- Raw null and raw truth values settle for what the singletons show. -/
theorem exists_settles_null (hgrounded : w.Grounded) (hsingletons : w.HasSingletons)
    (path : List ObjectId) (form : TextForm) :
    ∃ slot, natives.Settles w path form .null
      ((Rendering.null.alone World.nullObject >>= Rendering.expectText slot) w).reply := by
  have hhandler : ∃ slot,
      form.handler? (w.typeOf World.nullObject) = some (slot, .rendering .null) := by
    rw [hsingletons.typeOf_nullObject]
    cases form <;> exact ⟨_, rfl⟩
  obtain ⟨slot, hhandler⟩ := hhandler
  exact ⟨slot, settles_old hgrounded hgrounded.nullObject.1 hhandler (by decide) id⟩

theorem exists_settles_bool (hgrounded : w.Grounded) (hsingletons : w.HasSingletons)
    (path : List ObjectId) (form : TextForm) (b : Bool) :
    ∃ slot, natives.Settles w path form (.bool b)
      ((Rendering.bool.alone (World.boolObject b) >>= Rendering.expectText slot) w).reply := by
  have hhandler : ∃ slot,
      form.handler? (w.typeOf (World.boolObject b)) = some (slot, .rendering .bool) := by
    rw [hsingletons.typeOf_boolObject]
    cases form <;> exact ⟨_, rfl⟩
  obtain ⟨slot, hhandler⟩ := hhandler
  exact ⟨slot, settles_old hgrounded (hgrounded.boolObject b).1 hhandler (by decide) id⟩

/-- **There is one reply**: a value settles if all that is met is quiet. -/
theorem exists_settles (hgrounded : w.Grounded) (hsingletons : w.HasSingletons) {u : Value}
    (hu : ∀ p ∈ u.references, p.index < w.heap.size) (hquiet : ∀ p, w.Meets u p → natives.Quiet w p)
    (path : List ObjectId) (form : TextForm) : ∃ reply, natives.Settles w path form u reply := by
  -- The measure falls in two ways: an array joins the path, so fewer are unshown, or an
  -- item of a list is smaller.
  induction hm : World.unshown w.heap.size path * (w.weight + 2) + u.size using Nat.strongRecOn
    generalizing u path form with
  | ind m ih =>
    cases u with
    | null =>
      obtain ⟨slot, hsettles⟩ := exists_settles_null hgrounded hsingletons path form
      exact ⟨_, hsettles⟩
    | bool b =>
      obtain ⟨slot, hsettles⟩ := exists_settles_bool hgrounded hsingletons path form b
      exact ⟨_, hsettles⟩
    | list items =>
      have hall : ∀ u ∈ items, ∃ reply, natives.Settles w path .representation u reply := by
        intro u hmem
        have hsize := (Value.IsElement.list hmem).size_lt
        rw [Value.references] at hu
        exact ih _ (by omega) (fun q hq => hu q (Value.references_subset_of_mem hmem hq))
          (fun q hq => hquiet q (.item hmem hq)) path .representation rfl
      choose! replyOf hreply using hall
      exact ⟨_, settles_list hgrounded hu hreply⟩
    | object p =>
      have hlt : p.index < w.heap.size := hu p List.mem_cons_self
      refine exists_settles_object hgrounded hlt (hquiet p (.self p)) path form
        fun {items} hshows hitems hp u hmem => ?_
      have hsize := (World.Grows.refl w).limitsItems p items hitems u hmem
      have hleft := Nat.mul_le_mul_right (w.weight + 2) (World.unshown_cons_lt hlt hp)
      rw [Nat.succ_mul] at hleft
      exact ih _ (by omega) (hgrounded.references_of_items hitems hmem)
        (fun q hq => hquiet q (.element hshows hitems hmem hq)) (p :: path) .representation rfl
    | text s => cases form <;> exact ⟨_, settles_raw rfl rfl⟩
    | _ => exact ⟨_, settles_raw rfl rfl⟩

end Natives

/-! ## The reply -/

namespace World

variable {n : Nat} {w : World}

/-- What a value becomes has old objects within as many levels as there are places
    for it: the arrays of a list come one after the other. -/
theorem within_of_isInOrder (hsingletons : ∀ s ∈ singletons, s.index < n) {lo hi : Nat}
    {o : ObjectId} (v : Value) (hv : ∀ p ∈ v.references, p.index < n) (ho : w.IsConversion n o v)
    (horder : w.IsInOrder lo hi o v) : w.Within n (hi - lo) o := by
  match v with
  | .null | .bool _ | .object _ | .int _ | .float _ | .complex _ | .text _ | .function _
  | .dict _ | .foreign _ => exact within_of_not_list hsingletons (by simp) hv ho
  | .list items =>
    rw [IsConversion] at ho
    obtain ⟨-, htype, os, hpayload, hos⟩ := ho
    rw [IsInOrder] at horder
    obtain ⟨hlo, hhi, os', hpayload', horders⟩ := horder
    obtain rfl := eq_of_payload_objects hpayload hpayload'
    rw [Value.references] at hv
    -- The items lie behind the array, and so have one place less.
    have hitems : ∀ p ∈ os, w.Within n (hi - (o.index + 1)) p := by
      intro p hp
      have hpairs := forall₂_conversions hos horders
      obtain ⟨i, hi, rfl⟩ := List.getElem_of_mem hp
      have hlt : i < items.length := hpairs.length_eq ▸ hi
      have hu := List.getElem_mem hlt
      obtain ⟨hpu, hpo⟩ := hpairs.get hi hlt
      exact within_of_isInOrder hsingletons items[i]
        (fun q hq => hv q (Value.references_subset_of_mem hu hq)) hpu hpo
    exact (Within.array (index_lt_of_property?_eq_some hpayload) htype hpayload hitems).mono
      (by omega)
termination_by v.size
decreasing_by exact (Value.IsElement.list hu).size_lt

theorem unshown_nil (n : Nat) : unshown n [] = n := by
  simp [unshown]

end World

namespace Natives

variable {natives : Natives} {w w₁ : World} {form : TextForm} {u : Value} {reply : Reply String}

/-- **A value** that settles is shown with this reply in every grown world. -/
theorem render_settled (hgrounded : w.Grounded) (h : natives.Settles w [] form u reply)
    (hu : ∀ p ∈ u.references, p.index < w.heap.size) (hgrows : w.Grows w₁) :
    (natives.render form u w₁).reply = reply := by
  obtain ⟨depth, hdepth, hrender⟩ := exists_render_eq natives form u w₁
  have hstands : w.StandsFor [] u u.size (w₁.toObject u).1 .empty (w₁.toObject u).2 :=
    World.standsFor_toObject (fun s hs => (hgrounded.singletons s hs).1) hu hgrows
      (ObjectSet.freeFrom_empty _) fun p _ => by simp
  have hlt : World.unshown w.heap.size [] * (w₁.weight + 2) + u.size < depth := by
    have hlt := w₁.lt_renderingDepth u
    have hle := Nat.mul_le_mul_right (w₁.weight + 2) hgrows.size_le
    rw [World.unshown_nil] at hlt ⊢
    omega
  have hreplies := h hgrows.limitsItems hstands hlt
  rw [hrender]
  unfold showValue
  split
  · next s =>
    -- Raw text is its own text, and so is the string that it becomes.
    exact (replies_pure s).during.trans
      ((settles_raw rfl rfl hgrows.limitsItems hstands hlt).functional hreplies)
  · rw [during_bind, ofRun_apply]
    exact hreplies.during

/-- **An object** that stands for it is shown with this reply, too. -/
theorem render_settled_object (hgrounded : w.Grounded) (h : natives.Settles w [] form u reply)
    (hu : ∀ p ∈ u.references, p.index < w.heap.size) (hgrows : w.Grows w₁) {o : ObjectId}
    {lo hi : Nat} (ho : w₁.IsConversion w.heap.size o u) (horder : w₁.IsInOrder lo hi o u)
    (hlo : w.heap.size ≤ lo) (hle : lo ≤ w₁.heap.size) (hhi : hi ≤ w₁.heap.size) :
    (natives.render form (.object o) w₁).reply = reply := by
  obtain ⟨depth, hdepth, hrender⟩ := exists_render_eq natives form (.object o) w₁
  have hsingletons : ∀ s ∈ World.singletons, s.index < w.heap.size :=
    fun s hs => (hgrounded.singletons s hs).1
  have hstands : w.StandsFor [] u (hi - lo) o .empty w₁ :=
    ⟨hgrows, ho, World.within_of_isInOrder hsingletons u hu ho horder, fun p _ => by simp,
      lo, hi, hlo, hle, ObjectSet.freeFrom_empty _, horder⟩
  -- The depth a rendering starts with is enough for all levels of the object.
  have hlt : World.unshown w.heap.size [] * (w₁.weight + 2) + (hi - lo) < depth := by
    have hle := Nat.mul_le_mul_right (w₁.weight + 2) hgrows.size_le
    have hdepth : (w₁.heap.size + 2) * (w₁.weight + 2 + 1) ≤ depth := hdepth
    rw [Nat.mul_succ, Nat.add_mul] at hdepth
    rw [World.unshown_nil]
    omega
  have hshow : natives.showValue depth form (.object o) =
      (ofRun (Run.step fun w => w.toObject (.object o)) >>= natives.showObject depth form) := by
    cases form <;> rfl
  rw [hrender, hshow, during_bind, ofRun_apply]
  exact (h hgrows.limitsItems hstands hlt).during

end Natives

end DynamicObjects
