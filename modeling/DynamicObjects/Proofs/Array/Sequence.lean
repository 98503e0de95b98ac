import DynamicObjects.Host
import DynamicObjects.Proofs.Array.Order
import DynamicObjects.Proofs.Array.Search
import DynamicObjects.Proofs.Heap.Converted

/-! # Arrays as sequences

    An array stands for the sequence of its elements, which are objects.
    `ArrayOperation.Yields` says for each operation, in terms of sequences alone,
    what it answers and which sequence it leaves; values are stored as their
    conversions, and searches compare structurally.

    Main results:
    - `ArrayOperation.run_method`: methods are what their names are bound to
    - `ArrayOperation.run_refines`: every operation does to the array what it does
      to the sequence, and nothing to other objects -/

namespace DynamicObjects

namespace World

/-! ## Arrays -/

/-- The name of a method is bound to a function object, which runs it on the
    object. -/
def BindsMethod (w : World) (a : ObjectId) (name : String) (body : MethodBody) : Prop :=
  ∃ o f qualifiedName, w.property? a name = some (.object o) ∧ w.typeOf o = .function ∧
    w.payload? o = some (.function f) ∧ f.body = .bound a qualifiedName body

/-- An object is an **array** that stands for a sequence of objects. -/
structure IsArray (w : World) (a : ObjectId) (os : List ObjectId) : Prop where
  type : w.typeOf a = .array
  payload : w.payload? a = some (.list (os.map .object))
  methods : ∀ method : ArrayMethod, w.BindsMethod a method.name (.array method)

/-- At most the payload of one object is changed, apart from new objects. -/
structure TouchesOnly (a : ObjectId) (w w' : World) : Prop where
  size_le : w.heap.size ≤ w'.heap.size
  others : ∀ {o : ObjectId}, o ≠ a → o.index < w.heap.size → w'.object? o = w.object? o
  type : w'.typeOf a = w.typeOf a
  property?_eq : ∀ {name : String}, name ≠ payloadName → w'.property? a name = w.property? a name

section arrays
variable {w w' w'' : World} {a : ObjectId} {os os' : List ObjectId}

theorem IsArray.index_lt (h : w.IsArray a os) : a.index < w.heap.size :=
  index_lt_of_property?_eq_some h.payload

theorem IsArray.alive (h : w.IsArray a os) : w.isAlive a = true := by
  obtain ⟨x, hx, -⟩ := object?_of_property?_eq_some h.payload
  rw [isAlive, hx]
  rfl

theorem IsArray.items (h : w.IsArray a os) : w.items a = .ok (os.map .object) := by
  rw [World.items, h.payload]

/-- An array stands for one sequence only. -/
theorem IsArray.sequence_eq (h : w.IsArray a os)
    (hpayload : w.payload? a = some (.list (os'.map .object))) : os = os' :=
  eq_of_payload_objects h.payload hpayload

theorem TouchesOnly.trans (h₁ : TouchesOnly a w w') (h₂ : TouchesOnly a w' w'') :
    TouchesOnly a w w'' where
  size_le := Nat.le_trans h₁.size_le h₂.size_le
  others hne ho := (h₂.others hne (Nat.lt_of_lt_of_le ho h₁.size_le)).trans (h₁.others hne ho)
  type := h₂.type.trans h₁.type
  property?_eq hne := (h₂.property?_eq hne).trans (h₁.property?_eq hne)

theorem Grows.touchesOnly (h : w.Grows w') (ha : a.index < w.heap.size) : TouchesOnly a w w' where
  size_le := h.size_le
  others _ ho := h.object?_eq ho
  type := by rw [typeOf, typeOf, h.object_eq ha]
  property?_eq _ := h.property?_eq ha _

theorem touchesOnly_setPayload (w : World) (a : ObjectId) (v : Value) :
    TouchesOnly a w (w.setPayload a v) where
  size_le := Nat.le_of_eq (size_setProperty w a payloadName v).symm
  others hne _ := object?_update_ne w hne _
  type := by
    rw [typeOf, typeOf, object, object, setPayload, setProperty, object?_update_self]
    cases w.object? a <;> rfl
  property?_eq hne := property?_setProperty_ne w a hne v

/-- A method stays bound as long as function objects and its property stay. -/
theorem BindsMethod.kept {name : String} {body : MethodBody} (h : w.BindsMethod a name body)
    (hfunctions : ∀ {o : ObjectId}, w.typeOf o = .function → o.index < w.heap.size →
      w'.object? o = w.object? o)
    (hname : w'.property? a name = w.property? a name) : w'.BindsMethod a name body := by
  obtain ⟨o, f, qualifiedName, hbound, htype, hf, hbody⟩ := h
  have hobject := hfunctions htype (index_lt_of_property?_eq_some hf)
  refine ⟨o, f, qualifiedName, hname.trans hbound, ?_, ?_, hbody⟩
  · rw [typeOf, object, hobject]
    exact htype
  · rw [payload?, property?, object, hobject]
    exact hf

theorem ne_of_typeOf_function {o : ObjectId} (ha : w.typeOf a = .array)
    (ho : w.typeOf o = .function) : o ≠ a := by
  rintro rfl
  rw [ha] at ho
  exact absurd (congrArg TypeDescriptor.name ho) (by decide)

/-- An array stays one, of the sequence that is stored. -/
theorem IsArray.touched (h : w.IsArray a os) (htouches : TouchesOnly a w w')
    (hpayload : w'.payload? a = some (.list (os'.map .object))) : w'.IsArray a os' where
  type := htouches.type.trans h.type
  payload := hpayload
  methods method := (h.methods method).kept
    (fun ho => htouches.others (ne_of_typeOf_function h.type ho))
    (htouches.property?_eq (by cases method <;> decide))

/-- Storing a sequence leaves an array of that one. -/
theorem IsArray.stored (h : w.IsArray a os) (os' : List ObjectId) :
    (w.setPayload a (.list (os'.map .object))).IsArray a os' :=
  h.touched (touchesOnly_setPayload w a _) (property?_setProperty_self w h.alive payloadName _)

/-- Another array stays as it is. -/
theorem IsArray.untouched {b : ObjectId} (h : w.IsArray b os) (htouches : TouchesOnly a w w')
    (ha : w.typeOf a = .array) (hne : b ≠ a) : w'.IsArray b os := by
  have hobject := htouches.others hne h.index_lt
  have hproperty : ∀ name, w'.property? b name = w.property? b name := by
    intro name
    rw [property?, property?, object, object, hobject]
  constructor
  · rw [typeOf, object, hobject]
    exact h.type
  · exact (hproperty payloadName).trans h.payload
  · exact fun method => (h.methods method).kept
      (fun ho => htouches.others (ne_of_typeOf_function ha ho)) (hproperty _)

end arrays

end World

/-! ## Operations -/

/-- An operation on an array: construction anew, a slot, or a method by name. -/
inductive ArrayOperation where
  | init (args : List Value)
  | getItem (args : List Value)
  | setItem (args : List Value)
  | len (args : List Value)
  | method (m : ArrayMethod) (args : List Value)

/-- The place in front of which an element is inserted: from the end if the index
    is negative, and within the sequence in any case. -/
def clampedPosition (length : Nat) (index : Int) : Nat :=
  (if index < 0 then max 0 (length + index) else min index length).toNat

namespace ArrayOperation

/-- Perform an operation. -/
def run (host : Host) (a : ObjectId) : ArrayOperation → Run Value
  | init args => host.dispatch a .init args
  | getItem args => host.dispatch a .getItem args
  | setItem args => host.dispatch a .setItem args
  | len args => host.dispatch a .len args
  | method m args => host.callMethod a m.name args

/-! ## Sequences -/

/-- What an operation **yields** on a sequence: its answer and the sequence that
    it leaves.  The world before it tells what the arguments stand for, how
    elements compare and which objects there are; the world after it has the
    objects that stored values become. -/
inductive Yields (w : World) (os : List ObjectId) (w' : World) :
    ArrayOperation → Value → List ObjectId → Prop where
  | init : Yields w os w' (.init []) .null []
  | initFrom {v : Value} {items rest : List Value} {os' : List ObjectId}
      (hitems : w.unwrap v = .list items) (hos : w'.AreConversions w.heap.size os' items) :
      Yields w os w' (.init (v :: rest)) .null os'
  | getItem {key : Value} {i : Int64} {o : ObjectId} (hkey : w.subscript "array" key = .ok i)
      (hi : 0 ≤ i.toInt) (ho : os[i.toInt.toNat]? = some o) :
      Yields w os w' (.getItem [key]) (.object o) os
  | setItem {key v : Value} {i : Int64} {o : ObjectId} (hkey : w.subscript "array" key = .ok i)
      (hi : 0 ≤ i.toInt ∧ i.toInt < os.length) (ho : w'.IsConversion w.heap.size o v) :
      Yields w os w' (.setItem [key, v]) .null (os.set i.toInt.toNat o)
  | len : Yields w os w' (.len []) (Value.ofCount os.length) os
  | append {v : Value} {o : ObjectId} (ho : w'.IsConversion w.heap.size o v) :
      Yields w os w' (.method .append [v]) .null (os ++ [o])
  | pop {front : List ObjectId} {last : ObjectId} (hos : os = front ++ [last]) :
      Yields w os w' (.method .pop []) (.object last) front
  | contains {v : Value} {place : Option Nat}
      (h : w.Finds (w.unwrap v) (os.map .object) place) :
      Yields w os w' (.method .contains [v]) (.bool place.isSome) os
  | count {v : Value} {n : Nat} (h : w.Counts (w.unwrap v) (os.map .object) n) :
      Yields w os w' (.method .count [v]) (Value.ofCount n) os
  | insert {key v : Value} {i : Int64} {o : ObjectId} (hkey : w.unwrap key = .int i)
      (ho : w'.IsConversion w.heap.size o v) :
      Yields w os w' (.method .insert [key, v]) .null
        (os.insertIdx (clampedPosition os.length i.toInt) o)
  | remove {v : Value} {place : Nat} (h : w.Finds (w.unwrap v) (os.map .object) (some place)) :
      Yields w os w' (.method .remove [v]) .null (os.eraseIdx place)
  | sort {order : SortOrder} {os' : List ObjectId}
      (hcovers : order.Covers (os.map (Behaviour.sortKey w)))
      (h : StablySorted
        (fun o p => order.le (Behaviour.sortKey w o) (Behaviour.sortKey w p) = true) os os') :
      Yields w os w' (.method .sort []) .null os'
  | index {v : Value} {place : Option Nat} (h : w.Finds (w.unwrap v) (os.map .object) place) :
      Yields w os w' (.method .index [v]) (place.elim (.int (-1)) Value.ofCount) os
  | extend {v : Value} {items : List Value} {more : List ObjectId}
      (hitems : w.unwrap v = .list items) (hmore : w'.AreConversions w.heap.size more items) :
      Yields w os w' (.method .extend [v]) .null (os ++ more)
  | clear : Yields w os w' (.method .clear []) .null []
  | reverse : Yields w os w' (.method .reverse []) .null os.reverse
  | copy : Yields w os w' (.method .copy []) (.list (os.map .object)) os

/-- An operation makes sense on a sequence: it yields something. -/
def Defined (w : World) (os : List ObjectId) (op : ArrayOperation) : Prop :=
  ∃ w' answer os', op.Yields w os w' answer os'

/-- A search for a payload runs for ever on a sequence. -/
def SearchesForEver (w : World) (os : List ObjectId) : ArrayOperation → Prop
  | method .contains [v] | method .index [v] | method .remove [v] =>
    w.SearchEndless (os.map .object) (w.unwrap v)
  | method .count [v] => ∃ o ∈ os, Comparison.Endless w (.object o) (w.unwrap v)
  | _ => False

/-- An outcome of an operation on an array is as its sequence says.  A result is
    what the operation yields; a fault means that it makes no sense there, and
    leaves the sequence as it is; no end means that a search runs for ever. -/
def Refines (w : World) (a : ObjectId) (os : List ObjectId) (op : ArrayOperation) :
    Outcome Value → Prop
  | .done answer w' => ∃ os', op.Yields w os w' answer os' ∧ w'.IsArray a os' ∧
      World.TouchesOnly a w w'
  | .raised _ w' => ¬ op.Defined w os ∧ w'.IsArray a os ∧ World.TouchesOnly a w w'
  | .diverged => op.SearchesForEver w os

section refinement
variable {host : Host} {w w₁ : World} {a : ObjectId} {os os' : List ObjectId}
  {op : ArrayOperation} {answer : Value}

/-! ## Outcomes -/

theorem refines_read (h : w.IsArray a os) (hyields : op.Yields w os w answer os) :
    op.Refines w a os (.done answer w) :=
  ⟨os, hyields, h, (World.Grows.refl w).touchesOnly h.index_lt⟩

theorem refines_fault (h : w.IsArray a os) (hgrows : w.Grows w₁) (hno : ¬ op.Defined w os)
    (f : Fault) : op.Refines w a os (.raised f w₁) := by
  have htouches := hgrows.touchesOnly h.index_lt
  refine ⟨hno, h.touched htouches ?_, htouches⟩
  exact (hgrows.property?_eq h.index_lt payloadName).trans h.payload

theorem refines_store (h : w.IsArray a os) (hgrows : w.Grows w₁)
    (hyields : op.Yields w os (w₁.setPayload a (.list (os'.map .object))) answer os') :
    op.Refines w a os (.done answer (w₁.setPayload a (.list (os'.map .object)))) := by
  have htouches := (hgrows.touchesOnly h.index_lt).trans
    (World.touchesOnly_setPayload w₁ a (.list (os'.map .object)))
  refine ⟨os', hyields, h.touched htouches ?_, htouches⟩
  have halive : w₁.isAlive a = true := by
    have hold := h.alive
    rw [World.isAlive] at hold ⊢
    rw [hgrows.object?_eq h.index_lt, hold]
  exact World.property?_setProperty_self w₁ halive payloadName _

/-- What has just been converted stays a conversion when the payload of an older
    object is set. -/
theorem isConversion_store (h : w.IsArray a os) (v u : Value) :
    ((w.toObject v).2.setPayload a u).IsConversion w.heap.size (w.toObject v).1 v := by
  have hconversion : (w.toObject v).2.IsConversion w.heap.size (w.toObject v).1 v :=
    World.toObject_isConversion v (Nat.le_refl _)
  refine hconversion.mono (Nat.le_refl _) (fun {o} ho _ => ?_) v
  refine World.object?_update_ne _ (fun e => ?_) _
  have hlt := h.index_lt
  rw [e] at ho
  omega

theorem areConversions_store (h : w.IsArray a os) (items : List Value) :
    ∃ more : List ObjectId, (w.toObjects items).1 = more.map .object ∧
      ∀ u, ((w.toObjects items).2.setPayload a u).AreConversions w.heap.size more items := by
  obtain ⟨more, hmore, hconversions⟩ :=
    World.toObjects_areConversions items (Nat.le_refl w.heap.size)
  refine ⟨more, hmore, fun u => hconversions.mono (Nat.le_refl _) (fun {o} ho _ => ?_) items⟩
  refine World.object?_update_ne _ (fun e => ?_) _
  have hlt := h.index_lt
  rw [e] at ho
  omega

/-- The elements are still there when a value has been converted. -/
theorem items_of_grows (h : w.IsArray a os) (hgrows : w.Grows w₁) :
    w₁.items a = .ok (os.map .object) := by
  have hpayload : w₁.payload? a = some (.list (os.map .object)) :=
    (hgrows.property?_eq h.index_lt payloadName).trans h.payload
  rw [World.items, hpayload]

/-! ## Slots -/

theorem init_refines (h : w.IsArray a os) (args : List Value) :
    (init args).Refines w a os ((init args).run host a w) := by
  have hslot : (w.typeOf a).slots .init = some (.construct .array) := by rw [h.type]; rfl
  rw [run, Host.dispatch_apply host hslot]
  show Refines w a os _ (host.natives.runInitializer (.construct .array) a args w)
  unfold Natives.runInitializer
  cases args with
  | nil =>
    -- Without an argument the array is emptied.
    exact refines_store h (.refl w) .init
  | cons v rest =>
    simp only [Initializer.run, Initializer.itemsFrom, Run.bind_apply, Run.read_apply, id_eq]
    cases hitems : w.unwrap v with
    | list items =>
      obtain ⟨more, hmore, hconversions⟩ := areConversions_store h items
      simp only [Run.lift_ok, Run.step_apply, hmore, Run.modify_apply, Run.pure_apply]
      exact refines_store h (w.toObjects_grows items) (.initFrom hitems (hconversions _))
    | _ =>
      refine refines_fault h (.refl w) ?_ _
      rintro ⟨_, _, _, hyields⟩
      cases hyields
      simp_all

theorem getItem_refines (h : w.IsArray a os) (args : List Value) :
    (getItem args).Refines w a os ((getItem args).run host a w) := by
  have hslot : (w.typeOf a).slots .getItem = some (.getItem .array) := by rw [h.type]; rfl
  rw [run, Host.dispatch_apply host hslot]
  show Refines w a os _ (Behaviour.arrayGetItem a args w)
  rcases args with _ | ⟨key, _ | ⟨v, rest⟩⟩
  · exact refines_fault h (.refl w) (by rintro ⟨_, _, _, ⟨⟩⟩) _
  · simp only [Behaviour.arrayGetItem, Arguments.one, Run.bind_apply, Run.lift_ok, Run.read_apply,
      id_eq]
    cases hkey : w.subscript "array" key with
    | error f =>
      refine refines_fault h (.refl w) ?_ _
      rintro ⟨_, _, _, hyields⟩
      cases hyields
      simp_all
    | ok i =>
      simp only [Run.lift_ok, h.items, Arguments.position, List.length_map]
      by_cases hi : 0 ≤ i.toInt ∧ i.toInt < os.length
      · have hlt : i.toInt.toNat < os.length := by omega
        have hget : (os.map Value.object).getD i.toInt.toNat .null =
            .object os[i.toInt.toNat] := by
          rw [List.getD_eq_getElem?_getD, List.getElem?_map, List.getElem?_eq_getElem hlt]
          rfl
        rw [if_pos hi, Run.lift_ok]
        show Refines w a os _ (.done ((os.map Value.object).getD i.toInt.toNat .null) w)
        rw [hget]
        exact refines_read h (.getItem hkey hi.1 (List.getElem?_eq_getElem hlt))
      · rw [if_neg hi]
        refine refines_fault h (.refl w) ?_ _
        -- There is but one index that the key stands for, and it is out of range.
        rintro ⟨_, _, _, hyields⟩
        cases hyields with
        | @getItem _ j o hkey' hj ho =>
          obtain rfl := Except.ok.inj (hkey.symm.trans hkey')
          have hlt := (List.getElem?_eq_some_iff.mp ho).1
          omega
  · exact refines_fault h (.refl w) (by rintro ⟨_, _, _, ⟨⟩⟩) _

theorem setItem_refines (h : w.IsArray a os) (args : List Value) :
    (setItem args).Refines w a os ((setItem args).run host a w) := by
  have hslot : (w.typeOf a).slots .setItem = some (.setItem) := by rw [h.type]; rfl
  rw [run, Host.dispatch_apply host hslot]
  show Refines w a os _ (Behaviour.arraySetItem a args w)
  rcases args with _ | ⟨key, _ | ⟨v, _ | ⟨u, rest⟩⟩⟩
  · exact refines_fault h (.refl w) (by rintro ⟨_, _, _, ⟨⟩⟩) _
  · exact refines_fault h (.refl w) (by rintro ⟨_, _, _, ⟨⟩⟩) _
  · simp only [Behaviour.arraySetItem, Arguments.two, Run.bind_apply, Run.lift_ok, Run.read_apply,
      id_eq]
    cases hkey : w.subscript "array" key with
    | error f =>
      refine refines_fault h (.refl w) ?_ _
      rintro ⟨_, _, _, hyields⟩
      cases hyields
      simp_all
    | ok i =>
      -- The value is converted before the index is checked.
      simp only [Behaviour.converted, Behaviour.itemsOf, World.toValue, Run.lift_ok,
        Run.step_apply, Run.bind_apply, Run.read_apply, id_eq,
        items_of_grows h (w.toObject_grows v), Arguments.position, List.length_map]
      by_cases hi : 0 ≤ i.toInt ∧ i.toInt < os.length
      · rw [if_pos hi, Run.lift_ok]
        simp only [Behaviour.storeItems, Run.modify_apply, Run.pure_apply, ← List.map_set]
        exact refines_store h (w.toObject_grows v) (.setItem hkey hi (isConversion_store h v _))
      · rw [if_neg hi]
        refine refines_fault h (w.toObject_grows v) ?_ _
        rintro ⟨_, _, _, hyields⟩
        cases hyields with
        | setItem hkey' hj =>
          obtain rfl := Except.ok.inj (hkey.symm.trans hkey')
          exact hi hj
  · exact refines_fault h (.refl w) (by rintro ⟨_, _, _, ⟨⟩⟩) _

theorem len_refines (h : w.IsArray a os) (args : List Value) :
    (len args).Refines w a os ((len args).run host a w) := by
  have hslot : (w.typeOf a).slots .len = some (.len .array) := by rw [h.type]; rfl
  rw [run, Host.dispatch_apply host hslot]
  show Refines w a os _ (Behaviour.arrayLength a args w)
  cases args with
  | nil =>
    simp only [Behaviour.arrayLength, Arguments.none, Behaviour.itemsOf, Run.bind_apply,
      Run.lift_ok, Run.read_apply, id_eq, h.items, Run.pure_apply, List.length_map]
    exact refines_read h .len
  | cons v rest =>
    exact refines_fault h (.refl w) (by rintro ⟨_, _, _, ⟨⟩⟩) _

/-! ## Methods -/

/-- **Methods** are called by name: it is bound to a function object of the array,
    which is alive. -/
theorem run_method (h : w.IsArray a os) (m : ArrayMethod) (args : List Value) :
    (method m args).run host a w = m.invoke a args w := by
  obtain ⟨o, f, qualifiedName, hname, htype, hf, hbody⟩ := h.methods m
  have hgetAttr : host.getAttr a m.name w = .done (.object o) w := by
    have hunmarked : Host.markedProperty? m.name = none := by cases m <;> decide
    have hslot : (w.typeOf a).slots .getAttr = some (.getAttr .properties) := by rw [h.type]; rfl
    unfold Host.getAttr
    rw [hunmarked]
    simp only [Host.dispatch_apply host hslot, Host.invoke, AttributeStore.getHandler,
      Arguments.one, Arguments.attributeName, Run.bind_apply, Run.lift_ok, Run.read_apply, id_eq,
      AttributeStore.get, hname]
  -- Behind the name is a function object, whose call asks for the array to be alive.
  have hslot : (w.typeOf o).slots .call = some .call := by rw [htype]; rfl
  have hcall : host.call o args w = m.invoke a args w := by
    unfold Host.call
    simp only [Run.bind_apply, Run.read_apply]
    rw [hslot]
    simp only [Host.dispatch_apply host hslot, Host.invoke, Host.callPayload, Run.bind_apply,
      Run.read_apply, id_eq, hf, Host.callFunction, hbody, h.alive, ↓reduceIte, MethodBody.invoke]
  show host.callMethod a m.name args w = _
  simp only [Host.callMethod, Run.bind_apply, hgetAttr, hcall]

theorem append_refines (h : w.IsArray a os) (args : List Value) :
    (method .append args).Refines w a os (ArrayMethod.append.invoke a args w) := by
  rcases args with _ | ⟨v, _ | ⟨u, rest⟩⟩
  · exact refines_fault h (.refl w) (by rintro ⟨_, _, _, ⟨⟩⟩) _
  · have hrun : ArrayMethod.append.invoke a [v] w = .done .null
        ((w.toObject v).2.setPayload a (.list ((os ++ [(w.toObject v).1]).map .object))) := by
      simp only [ArrayMethod.invoke, Arguments.one, Behaviour.converted, Behaviour.itemsOf,
        World.toValue, Behaviour.storeItems, Run.bind_apply, Run.lift_ok, Run.step_apply,
        Run.read_apply, id_eq, items_of_grows h (w.toObject_grows v), Run.modify_apply,
        Run.pure_apply, List.map_append, List.map_cons, List.map_nil]
    rw [hrun]
    exact refines_store h (w.toObject_grows v) (.append (isConversion_store h v _))
  · exact refines_fault h (.refl w) (by rintro ⟨_, _, _, ⟨⟩⟩) _

theorem pop_refines (h : w.IsArray a os) (args : List Value) :
    (method .pop args).Refines w a os (ArrayMethod.pop.invoke a args w) := by
  cases args with
  | nil =>
    simp only [ArrayMethod.invoke, Arguments.none, Behaviour.itemsOf, Run.bind_apply, Run.lift_ok,
      Run.read_apply, id_eq, h.items]
    rcases List.eq_nil_or_concat' os with rfl | ⟨front, last, rfl⟩
    · refine refines_fault h (.refl w) ?_ _
      rintro ⟨_, _, _, hyields⟩
      cases hyields with
      | pop hos => simp at hos
    · simp only [List.map_append, List.map_cons, List.map_nil, List.getLast?_concat,
        List.dropLast_concat, Behaviour.storeItems, Run.bind_apply, Run.modify_apply,
        Run.pure_apply]
      exact refines_store h (.refl w) (.pop rfl)
  | cons v rest =>
    exact refines_fault h (.refl w) (by rintro ⟨_, _, _, ⟨⟩⟩) _

theorem clampedPosition_eq (length : Nat) (i : Int64) :
    Behaviour.insertionPoint length i = clampedPosition length i.toInt := by
  unfold Behaviour.insertionPoint clampedPosition
  split <;> omega

theorem insert_refines (h : w.IsArray a os) (args : List Value) :
    (method .insert args).Refines w a os (ArrayMethod.insert.invoke a args w) := by
  rcases args with _ | ⟨key, _ | ⟨v, _ | ⟨u, rest⟩⟩⟩
  · exact refines_fault h (.refl w) (by rintro ⟨_, _, _, ⟨⟩⟩) _
  · exact refines_fault h (.refl w) (by rintro ⟨_, _, _, ⟨⟩⟩) _
  · simp only [ArrayMethod.invoke, Arguments.two, Behaviour.insertionIndex, Run.bind_apply,
      Run.lift_ok, Run.read_apply, id_eq]
    -- Only an integer is a position; with any other key nothing is inserted.
    cases hkey : w.unwrap key with
    | int i =>
      simp only [Behaviour.converted, Behaviour.itemsOf, World.toValue, Run.lift_ok,
        Run.step_apply, Run.bind_apply, Run.read_apply, id_eq,
        items_of_grows h (w.toObject_grows v), Behaviour.storeItems, Run.modify_apply,
        Run.pure_apply, List.length_map, clampedPosition_eq, ← List.map_insertIdx]
      exact refines_store h (w.toObject_grows v) (.insert hkey (isConversion_store h v _))
    | _ =>
      refine refines_fault h (.refl w) ?_ _
      rintro ⟨_, _, _, hyields⟩
      cases hyields
      simp_all
  · exact refines_fault h (.refl w) (by rintro ⟨_, _, _, ⟨⟩⟩) _

theorem extend_refines (h : w.IsArray a os) (args : List Value) :
    (method .extend args).Refines w a os (ArrayMethod.extend.invoke a args w) := by
  rcases args with _ | ⟨v, _ | ⟨u, rest⟩⟩
  · exact refines_fault h (.refl w) (by rintro ⟨_, _, _, ⟨⟩⟩) _
  · simp only [ArrayMethod.invoke, Arguments.one, Behaviour.extension, Run.bind_apply,
      Run.lift_ok, Run.read_apply, id_eq]
    cases hitems : w.unwrap v with
    | list items =>
      obtain ⟨more, hmore, hconversions⟩ := areConversions_store h items
      simp only [Run.lift_ok, Run.step_apply, hmore, Behaviour.itemsOf, Run.bind_apply,
        Run.read_apply, id_eq, items_of_grows h (w.toObjects_grows items),
        Behaviour.storeItems, Run.modify_apply, Run.pure_apply, ← List.map_append]
      exact refines_store h (w.toObjects_grows items) (.extend hitems (hconversions _))
    | _ =>
      refine refines_fault h (.refl w) ?_ _
      rintro ⟨_, _, _, hyields⟩
      cases hyields
      simp_all
  · exact refines_fault h (.refl w) (by rintro ⟨_, _, _, ⟨⟩⟩) _

theorem sort_refines (h : w.IsArray a os) (args : List Value) :
    (method .sort args).Refines w a os (ArrayMethod.sort.invoke a args w) := by
  cases args with
  | nil =>
    simp only [ArrayMethod.invoke, Arguments.none, Run.bind_apply, Run.lift_ok, Run.read_apply,
      id_eq, h.items]
    -- The order covers all payloads, or there is none that does.
    cases hsorted : Behaviour.sorted w (os.map .object) with
    | ok items =>
      obtain ⟨order, hcovers, rfl⟩ := Behaviour.sorted_eq_ok_iff.mp hsorted
      simp only [Run.lift_ok, Behaviour.storeItems, Run.modify_apply, Run.pure_apply]
      refine refines_store h (.refl w) (.sort hcovers (stablySorted_mergeSort ?_ ?_ ?_))
      · exact fun _ _ _ => order.le_trans _ _ _
      · exact fun _ _ => order.le_total _ _
      · exact fun _ _ _ _ => Iff.rfl
    | error f =>
      refine refines_fault h (.refl w) ?_ _
      rintro ⟨_, _, _, hyields⟩
      cases hyields with
      | sort hcovers _ =>
        rw [Behaviour.sorted_eq_ok_iff.mpr ⟨_, hcovers, rfl⟩] at hsorted
        cases hsorted
  | cons v rest =>
    exact refines_fault h (.refl w) (by rintro ⟨_, _, _, ⟨⟩⟩) _

theorem clear_refines (h : w.IsArray a os) (args : List Value) :
    (method .clear args).Refines w a os (ArrayMethod.clear.invoke a args w) := by
  cases args with
  | nil =>
    simp only [ArrayMethod.invoke, Arguments.none, Behaviour.itemsOf, Run.bind_apply, Run.lift_ok,
      Run.read_apply, id_eq, h.items, Behaviour.storeItems, Run.modify_apply, Run.pure_apply]
    exact refines_store h (.refl w) .clear
  | cons v rest =>
    exact refines_fault h (.refl w) (by rintro ⟨_, _, _, ⟨⟩⟩) _

theorem reverse_refines (h : w.IsArray a os) (args : List Value) :
    (method .reverse args).Refines w a os (ArrayMethod.reverse.invoke a args w) := by
  cases args with
  | nil =>
    simp only [ArrayMethod.invoke, Arguments.none, Behaviour.itemsOf, Run.bind_apply, Run.lift_ok,
      Run.read_apply, id_eq, h.items, Behaviour.storeItems, Run.modify_apply, Run.pure_apply,
      ← List.map_reverse]
    exact refines_store h (.refl w) .reverse
  | cons v rest =>
    exact refines_fault h (.refl w) (by rintro ⟨_, _, _, ⟨⟩⟩) _

theorem copy_refines (h : w.IsArray a os) (args : List Value) :
    (method .copy args).Refines w a os (ArrayMethod.copy.invoke a args w) := by
  cases args with
  | nil =>
    simp only [ArrayMethod.invoke, Arguments.none, Behaviour.itemsOf, Run.bind_apply, Run.lift_ok,
      Run.read_apply, id_eq, h.items, Run.pure_apply]
    exact refines_read h .copy
  | cons v rest =>
    exact refines_fault h (.refl w) (by rintro ⟨_, _, _, ⟨⟩⟩) _

/-! ## Searches -/

theorem contains_refines (h : w.IsArray a os) (args : List Value) :
    (method .contains args).Refines w a os (ArrayMethod.contains.invoke a args w) := by
  rcases args with _ | ⟨v, _ | ⟨u, rest⟩⟩
  · exact refines_fault h (.refl w) (by rintro ⟨_, _, _, ⟨⟩⟩) _
  · cases hplace : w.positionOf (os.map .object) (w.unwrap v) with
    | some place =>
      have hfinds := World.positionOf_eq_some_iff.mp hplace
      rw [ArrayMethod.invoke_contains h.items hfinds]
      exact refines_read h (.contains hfinds)
    | none =>
      have hendless := World.positionOf_eq_none_iff.mp hplace
      rw [ArrayMethod.invoke_contains_eq_diverged_iff.mpr
        (ArrayMethod.find_eq_diverged_iff.mpr ⟨_, h.items, hendless⟩)]
      exact hendless
  · exact refines_fault h (.refl w) (by rintro ⟨_, _, _, ⟨⟩⟩) _

theorem index_refines (h : w.IsArray a os) (args : List Value) :
    (method .index args).Refines w a os (ArrayMethod.index.invoke a args w) := by
  rcases args with _ | ⟨v, _ | ⟨u, rest⟩⟩
  · exact refines_fault h (.refl w) (by rintro ⟨_, _, _, ⟨⟩⟩) _
  · cases hplace : w.positionOf (os.map .object) (w.unwrap v) with
    | some place =>
      have hfinds := World.positionOf_eq_some_iff.mp hplace
      rw [ArrayMethod.invoke_index h.items hfinds]
      exact refines_read h (.index hfinds)
    | none =>
      have hendless := World.positionOf_eq_none_iff.mp hplace
      rw [ArrayMethod.invoke_index_eq_diverged_iff.mpr
        (ArrayMethod.find_eq_diverged_iff.mpr ⟨_, h.items, hendless⟩)]
      exact hendless
  · exact refines_fault h (.refl w) (by rintro ⟨_, _, _, ⟨⟩⟩) _

theorem count_refines (h : w.IsArray a os) (args : List Value) :
    (method .count args).Refines w a os (ArrayMethod.count.invoke a args w) := by
  rcases args with _ | ⟨v, _ | ⟨u, rest⟩⟩
  · exact refines_fault h (.refl w) (by rintro ⟨_, _, _, ⟨⟩⟩) _
  · cases hcount : w.occurrences (os.map .object) (w.unwrap v) with
    | some n =>
      have hcounts := World.occurrences_eq_some_iff.mp hcount
      rw [ArrayMethod.invoke_count h.items hcounts]
      exact refines_read h (.count hcounts)
    | none =>
      have hendless := World.occurrences_eq_none_iff.mp hcount
      rw [ArrayMethod.invoke_count_eq_diverged_iff.mpr
        (ArrayMethod.occurrencesOf_eq_diverged_iff.mpr ⟨_, h.items, hendless⟩)]
      obtain ⟨item, hitem, hendless⟩ := hendless
      obtain ⟨o, ho, rfl⟩ := List.mem_map.mp hitem
      exact ⟨o, ho, hendless⟩
  · exact refines_fault h (.refl w) (by rintro ⟨_, _, _, ⟨⟩⟩) _

theorem remove_refines (h : w.IsArray a os) (args : List Value) :
    (method .remove args).Refines w a os (ArrayMethod.remove.invoke a args w) := by
  rcases args with _ | ⟨v, _ | ⟨u, rest⟩⟩
  · exact refines_fault h (.refl w) (by rintro ⟨_, _, _, ⟨⟩⟩) _
  · cases hplace : w.positionOf (os.map .object) (w.unwrap v) with
    | some place =>
      have hfinds := World.positionOf_eq_some_iff.mp hplace
      rw [ArrayMethod.invoke_remove h.items hfinds]
      cases place with
      | some i =>
        rw [Option.elim_some, List.eraseIdx_map]
        exact refines_store h (.refl w) (.remove hfinds)
      | none =>
        refine refines_fault h (.refl w) ?_ _
        rintro ⟨_, _, _, hyields⟩
        cases hyields with
        | remove hfinds' =>
          -- A search has one answer.
          have hplace' := World.positionOf_eq_some_iff.mpr hfinds'
          rw [hplace] at hplace'
          cases hplace'
    | none =>
      have hendless := World.positionOf_eq_none_iff.mp hplace
      rw [ArrayMethod.invoke_remove_eq_diverged_iff.mpr
        (ArrayMethod.find_eq_diverged_iff.mpr ⟨_, h.items, hendless⟩)]
      exact hendless
  · exact refines_fault h (.refl w) (by rintro ⟨_, _, _, ⟨⟩⟩) _

/-- **Step**: every operation on an array is the operation on its sequence. -/
theorem run_refines (host : Host) (h : w.IsArray a os) (op : ArrayOperation) :
    op.Refines w a os (op.run host a w) := by
  cases op with
  | init args => exact init_refines h args
  | getItem args => exact getItem_refines h args
  | setItem args => exact setItem_refines h args
  | len args => exact len_refines h args
  | method m args =>
    rw [run_method h]
    cases m with
    | append => exact append_refines h args
    | pop => exact pop_refines h args
    | contains => exact contains_refines h args
    | count => exact count_refines h args
    | insert => exact insert_refines h args
    | remove => exact remove_refines h args
    | sort => exact sort_refines h args
    | index => exact index_refines h args
    | extend => exact extend_refines h args
    | clear => exact clear_refines h args
    | reverse => exact reverse_refines h args
    | copy => exact copy_refines h args

end refinement

end ArrayOperation

end DynamicObjects
