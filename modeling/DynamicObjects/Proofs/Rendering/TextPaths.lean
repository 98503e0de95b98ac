import DynamicObjects.Host.Stock
import DynamicObjects.Proofs.Attribute.Store
import DynamicObjects.Proofs.Method.Bound
import DynamicObjects.Proofs.Rendering.Settled
import DynamicObjects.Proofs.Safety.Strings

/-! # Three ways to a text

    There are three operations on strings that show a value: it can be added to a
    string, joined as an element of a list, and formatted.  Addition shows the value
    itself, joining shows an object that stands for it, and both give the same.
    Formatting shows the payload instead, if there is one.

    The argument:
    1. Each of the three operations is a rendering, the text of which becomes a new
       string: `Outcome.Tells`.
    2. A value that settles has one reply, and so does what stands for it.
    3. If a value shows its payload, both settle for the same: the text of the
       payload, or the elements of an array that does not meet itself.

    Main results:
    - `World.ShowsPayload`: when it makes no difference that a payload is shown
    - `text_paths_agree`: what the three operations tell -/

namespace DynamicObjects

/-! ## Strings -/

/-- An object is a **string** of a text if it has the methods of strings. -/
structure World.IsString (w : World) (t : ObjectId) (text : String) : Prop where
  type : w.typeOf t = .string
  payload : w.payload? t = some (.text text)
  methods : ∀ method : TextMethod, ∃ m qualifiedName,
    w.property? t method.name = some (.object m) ∧ w.BindsTo m t qualifiedName (.text method)

namespace World

variable {w w₁ : World} {t m o : ObjectId} {text : String}

theorem IsString.index_lt (h : w.IsString t text) : t.index < w.heap.size :=
  index_lt_of_property?_eq_some h.payload

theorem IsString.textOf (h : w.IsString t text) : Rendering.textOf w t = text := by
  rw [Rendering.textOf, h.payload]

theorem BindsTo.grows {qualifiedName : String} {body : MethodBody}
    (h : w.BindsTo m o qualifiedName body) (hgrows : w.Grows w₁) :
    w₁.BindsTo m o qualifiedName body := by
  rw [BindsTo, hgrows.typeOf_eq h.index_lt, hgrows.payload?_eq h.index_lt]
  exact h

/-- A string stays one while the world grows. -/
theorem IsString.grows (h : w.IsString t text) (hgrows : w.Grows w₁) : w₁.IsString t text where
  type := (hgrows.typeOf_eq h.index_lt).trans h.type
  payload := (hgrows.payload?_eq h.index_lt).trans h.payload
  methods method := by
    obtain ⟨m, qualifiedName, hm, hbinds⟩ := h.methods method
    exact ⟨m, qualifiedName, (hgrows.property?_eq h.index_lt _).trans hm, hbinds.grows hgrows⟩

/-- **Text** becomes a string when it is converted. -/
theorem isString_toObject (w : World) (text : String) :
    (w.toObject (.text text)).2.IsString (w.toObject (.text text)).1 text := by
  have hself := setPayload_self (w.allocate_type .string) (.text text)
  refine ⟨hself.1, hself.2, fun method => ?_⟩
  have hlast : Bindings.last? method.name TypeDescriptor.string.methods =
      some (.native (.text method)) := by
    cases method <;> rfl
  obtain ⟨m, hlt, hm, -, htype, f, hf, hbody⟩ := w.allocate_bindsTo hlast
  -- The payload is set on the string, and not on its methods.
  have hne : m ≠ ⟨w.heap.size⟩ := by
    rintro rfl
    exact Nat.lt_irrefl _ hlt
  have hobject : (w.toObject (.text text)).2.object? m = (w.allocate .string).2.object? m :=
    object?_update_ne _ hne _
  refine ⟨m, _, ?_, ?_, f, ?_, hbody⟩
  · exact (property?_setProperty_ne _ _ (by cases method <;> decide) _).trans hm
  · rw [typeOf, object, hobject]
    exact htype
  · rw [payload?, property?, object, hobject]
    exact hf

/-- A method of a string runs on the string. -/
theorem IsString.callMethod (h : w.IsString t text) (host : Host) (method : TextMethod)
    (args : List Value) :
    host.callMethod t method.name args w = method.invoke host.natives t args w := by
  obtain ⟨m, qualifiedName, hm, hbinds⟩ := h.methods method
  have hslot : (w.typeOf t).slots .getAttr = some (.getAttr .properties) := by rw [h.type]; rfl
  have hget : host.getAttr t method.name w = .done (.object m) w := by
    rw [Host.getAttr_apply hslot (by cases method <;> decide), AttributeStore.get, hm]
    rfl
  rw [hbinds.callMethod hget, Host.callBound, if_pos (isAlive_of_typeOf_string h.type)]
  rfl

end World

/-! ## What an operation tells -/

/-- An operation **tells** a reply: it gives a string of this text, it fails with
    this fault, or it never ends. -/
def Outcome.Tells (reply : Reply String) : Outcome Value → Prop
  | .done v w => ∃ t text, v = .object t ∧ w.IsString t text ∧ reply = .result text
  | .raised f _ => reply = .fault f
  | .diverged => reply = .never

/-- Each outcome tells one reply only. -/
theorem Outcome.Tells.functional {r : Outcome Value} {a b : Reply String} (ha : r.Tells a)
    (hb : r.Tells b) : a = b := by
  cases r with
  | done v w =>
    obtain ⟨t, text, rfl, ht, rfl⟩ := ha
    obtain ⟨t', text', ht', hstring, rfl⟩ := hb
    obtain rfl := Value.object.inj ht'
    rw [Value.text.inj (Option.some.inj (ht.payload.symm.trans hstring.payload))]
  | raised f w => exact Eq.trans ha (Eq.symm hb)
  | diverged => exact Eq.trans ha (Eq.symm hb)

section operations
variable {host : Host} {w : World} {t : ObjectId} {v list : Value}

/-- The text of a rendering becomes a new string. -/
theorem tells_newText (r : Run String) (w : World) :
    ((r >>= Behaviour.newText) w).Tells (r w).reply := by
  rw [Run.bind_apply]
  cases r w with
  | done text w₁ => exact ⟨_, text, rfl, w₁.isString_toObject text, rfl⟩
  | raised f w₁ => rfl
  | diverged => rfl

/-- **Addition** to the empty string tells the text of the value. -/
theorem dispatch_add_tells (ht : w.IsString t "") :
    (host.dispatch t .add [v] w).Tells (host.stringify v w).reply := by
  have hslot : (w.typeOf t).slots .add = some .concatenate := by rw [ht.type]; rfl
  have hrun : host.dispatch t .add [v] w = (host.stringify v >>= Behaviour.newText) w := by
    rw [Host.dispatch_apply host hslot, Host.invoke, Behaviour.concatenate, Arguments.one]
    simp only [Run.bind_apply, Run.lift_ok, Run.read_apply, ht.textOf, String.empty_append]
    rfl
  rw [hrun]
  exact tells_newText _ w

/-- **Joining** one element tells the text of the object that it becomes, whatever the
    separator is. -/
theorem callMethod_join_tells {separator : String} {p : ObjectId} {w₁ : World}
    (ht : w.IsString t separator)
    (hiterated : Behaviour.iterated list w = .done [.object p] w₁) :
    (host.callMethod t TextMethod.join.name [list] w).Tells
      (host.stringify (.object p) w₁).reply := by
  have hrun : host.callMethod t TextMethod.join.name [list] w =
      (host.stringify (.object p) >>= Behaviour.newText) w₁ := by
    rw [ht.callMethod, TextMethod.invoke, Arguments.one]
    simp only [Run.bind_apply, Run.lift_ok, hiterated, Run.read_apply, Behaviour.stringifyAll,
      Host.stringify]
    cases host.natives.stringify (.object p) w₁ <;> simp
  rw [hrun]
  exact tells_newText _ w₁

theorem parse_textDirective : Format.parse "%s".toList = [.directive .default 's'] := by
  have htoList : "%s".toList = ['%', 's'] := by decide
  have hlayout : Format.takeLayout ['s'] = (.default, ['s']) := by decide
  rw [htoList, Format.parse, if_pos rfl, hlayout]
  simp [Format.parse]

/-- A directive that says nothing about it leaves a text as it is. -/
theorem fill_default (text : String) :
    Format.fill .default false (Format.truncated .default text) = text.toList := by
  simp [Format.fill, Format.truncated, Format.Layout.default]

/-- **Formatting** tells the text of what the argument unwraps to. -/
theorem callMethod_format_tells (ht : w.IsString t "%s") :
    (host.callMethod t TextMethod.format.name [v] w).Tells
      (host.stringify (w.unwrap (w.unwrap v)) w).reply := by
  have hrun : host.callMethod t TextMethod.format.name [v] w =
      (host.stringify (w.unwrap (w.unwrap v)) >>= Behaviour.newText) w := by
    rw [ht.callMethod, TextMethod.invoke]
    simp only [Behaviour.charsOf, Run.bind_apply, Run.read_apply, ht.textOf, Natives.format,
      parse_textDirective, List.map_cons, List.map_nil, Format.substitute, Format.convert, id_eq,
      Host.stringify]
    cases host.natives.stringify (w.unwrap (w.unwrap v)) w <;> simp [fill_default]
  rw [hrun]
  exact tells_newText _ w

end operations

/-- **The elements** of a value become objects that stand for them. -/
theorem exists_iterated_all {w : World} {list : Value} {items : List Value}
    (hlist : w.elements? list = some items) :
    ∃ os w₁ lo hi, Behaviour.iterated list w = .done (os.map .object) w₁ ∧ w.Grows w₁ ∧
      List.Forall₂ (fun o u => w₁.IsConversion w.heap.size o u ∧ w₁.IsInOrder lo hi o u)
        os items ∧ w.heap.size ≤ lo ∧ lo ≤ w₁.heap.size ∧ hi ≤ w₁.heap.size := by
  have hconversion := World.toObject_isConversion (w := w) (.list items) (Nat.le_refl _)
  have horder := w.toObject_isInOrder (.list items)
  rw [World.IsConversion] at hconversion
  rw [World.IsInOrder] at horder
  obtain ⟨hnew, -, os, hpayload, hos⟩ := hconversion
  obtain ⟨-, hlt, os', hpayload', horders⟩ := horder
  obtain rfl := World.eq_of_payload_objects hpayload hpayload'
  refine ⟨os, (w.toObject (.list items)).2, _, _, ?_, w.toObject_grows _,
    World.forall₂_conversions hos horders, Nat.le_succ_of_le hnew, hlt, Nat.le_refl _⟩
  rw [Behaviour.iterated, World.toArray?, hlist, Option.map_some]
  simp only [World.items, hpayload]
  rfl

theorem exists_iterated {w : World} {v list : Value} (hlist : w.elements? list = some [v]) :
    ∃ p w₁ lo hi, Behaviour.iterated list w = .done [.object p] w₁ ∧ w.Grows w₁ ∧
      w₁.IsConversion w.heap.size p v ∧ w₁.IsInOrder lo hi p v ∧ w.heap.size ≤ lo ∧
      lo ≤ w₁.heap.size ∧ hi ≤ w₁.heap.size := by
  obtain ⟨os, w₁, lo, hi, hiterated, hgrows, hos, hbounds⟩ := exists_iterated_all hlist
  obtain ⟨p, _, ⟨hp, hpo⟩, hnil, rfl⟩ := List.forall₂_cons_right_iff.mp hos
  obtain rfl := List.forall₂_nil_right_iff.mp hnil
  exact ⟨p, w₁, lo, hi, hiterated, hgrows, hp, hpo, hbounds⟩

/-! ## Payloads that are shown -/

/-- A value **shows its payload** if it makes no difference whether it is shown or what
    it unwraps to: it has no payload; its payload is shown by the handler of its own
    type; or it is an array that is not met among its elements. -/
inductive World.ShowsPayload (w : World) : Value → Prop where
  | self {v : Value} (h : w.unwrap v = v) : ShowsPayload w v
  | own {o : ObjectId} {u : Value} {text : String} (hpayload : w.payload? o = some u)
      (hkind : TextForm.plain.handler? (w.typeOf o) = TextForm.plain.handler? (w.typeOfKind u))
      (htext : u.ownText? .plain = some text)
      (hbool : ∀ b, u = .bool b → Rendering.boolText w (World.boolObject b) = some text) :
      ShowsPayload w (.object o)
  | array {o : ObjectId} {items : List Value} (hpayload : w.payload? o = some (.list items))
      (hkind : TextForm.plain.handler? (w.typeOf o) = TextForm.plain.handler? .array)
      (hself : ∀ u ∈ items, ¬ w.Meets u o) : ShowsPayload w (.object o)

section settled
variable {natives : Natives} {w : World} {u v : Value} {text : String}

/-- What has a text of its own is not unwrapped. -/
theorem World.unwrap_of_ownText? {form : TextForm} (h : u.ownText? form = some text) :
    w.unwrap u = u := by
  cases u with
  | object o => cases h
  | _ => rfl

/-- A value that refers to what exists or has existed unwraps to such a value. -/
theorem World.Grounded.references_unwrap (h : w.Grounded)
    (hv : ∀ p ∈ v.references, p.index < w.heap.size) :
    ∀ p ∈ (w.unwrap v).references, p.index < w.heap.size := by
  cases v with
  | object o =>
    rw [World.unwrap]
    cases hpayload : w.payload? o with
    | none => exact hv
    | some u => exact h.references_lt hpayload
  | _ => exact hv

namespace Natives

/-- Raw values settle for their own text, if the truth values show it. -/
theorem settles_ownText_self (hgrounded : w.Grounded) (hsingletons : w.HasSingletons)
    (htext : u.ownText? .plain = some text)
    (hbool : ∀ b, u = .bool b → Rendering.boolText w (World.boolObject b) = some text) :
    natives.Settles w [] .plain u (.result text) := by
  cases u with
  | null =>
    obtain rfl := Option.some.inj htext
    obtain ⟨slot, hsettles⟩ := exists_settles_null hgrounded hsingletons [] .plain
    exact hsettles
  | bool b =>
    obtain ⟨slot, hsettles⟩ := exists_settles_bool hgrounded hsingletons [] .plain b
    have hreply : ((Rendering.bool.alone (World.boolObject b) >>=
        Rendering.expectText slot) w).reply = .result text := by
      simp only [Rendering.alone, Run.bind_apply, Run.read_apply, id_eq, hbool b rfl,
        Run.ofTerminating_some, Run.pure_apply]
      rfl
    rwa [hreply] at hsettles
  | list _ | object _ => cases htext
  | _ => exact settles_raw htext rfl

/-- **The payload** of a value that shows it settles for the same. -/
theorem exists_settles_payload (hgrounded : w.Grounded) (hsingletons : w.HasSingletons)
    (hv : ∀ p ∈ v.references, p.index < w.heap.size) (hquiet : ∀ p, w.Meets v p → natives.Quiet w p)
    (h : w.ShowsPayload v) :
    ∃ reply, natives.Settles w [] .plain v reply ∧
      natives.Settles w [] .plain (w.unwrap (w.unwrap v)) reply := by
  cases h with
  | self h =>
    rw [h, h]
    obtain ⟨reply, hsettles⟩ := exists_settles hgrounded hsingletons hv hquiet [] .plain
    exact ⟨reply, hsettles, hsettles⟩
  | @own o u text hpayload hkind htext hbool =>
    have hlt : o.index < w.heap.size := World.index_lt_of_property?_eq_some hpayload
    have hunwrap : w.unwrap (.object o) = u := by rw [World.unwrap, hpayload]; rfl
    rw [hunwrap, World.unwrap_of_ownText? htext]
    refine ⟨.result text, settles_ownText htext fun hgrows hconversion => ?_,
      settles_ownText_self hgrounded hsingletons htext hbool⟩
    obtain rfl := hconversion
    rw [hgrows.typeOf_eq hlt, hgrows.payload?_eq hlt,
      hgrows.typeOfKind_eq (hgrounded.references_lt hpayload)]
    exact ⟨hkind, hpayload⟩
  | @array o items hpayload hkind hself =>
    have hlt : o.index < w.heap.size := World.index_lt_of_property?_eq_some hpayload
    have hunwrap : w.unwrap (.object o) = .list items := by rw [World.unwrap, hpayload]; rfl
    rw [hunwrap]
    have hhandler : TextForm.plain.handler? (w.typeOf o) = some (.str, .rendering .array) := hkind
    have hitems : w.items o = .ok items := by rw [World.items, hpayload]
    have hall : ∀ u ∈ items, ∃ reply, natives.Settles w [o] .representation u reply :=
      fun u hu => exists_settles hgrounded hsingletons (hgrounded.references_of_items hitems hu)
        (fun p hp => hquiet p (.element ⟨_, _, hhandler⟩ hitems hu hp)) [o] .representation
    choose! replyOf hreply using hall
    -- Along the path, and then without it, since the array is not met again.
    exact ⟨_, settles_array hgrounded hlt hhandler List.not_mem_nil hitems hreply,
      settles_list hgrounded (hgrounded.references_lt hpayload)
        fun u hu => Settles.of_cons (hreply u hu) (hself u hu)⟩

end Natives

end settled

/-! ## The three operations -/

/-- **Three ways to a text**: if all that is met has no side effects, to add a value to
    the empty string and to join it, with whatever separator, tell the text of the
    value.  To format it tells the text of what it unwraps to, and this is the same
    text if the value shows its payload. -/
theorem text_paths_agree {host : Host} {w : World} {v list : Value}
    {empty separator template : ObjectId} {between : String} (hgrounded : w.Grounded)
    (hsingletons : w.HasSingletons) (hv : ∀ p ∈ v.references, p.index < w.heap.size)
    (hquiet : ∀ p, w.Meets v p → host.natives.Quiet w p) (hlist : w.elements? list = some [v])
    (hempty : w.IsString empty "") (hseparator : w.IsString separator between)
    (htemplate : w.IsString template "%s") :
    (host.dispatch empty .add [v] w).Tells (host.stringify v w).reply ∧
    (host.callMethod separator TextMethod.join.name [list] w).Tells (host.stringify v w).reply ∧
    (host.callMethod template TextMethod.format.name [v] w).Tells
      (host.stringify (w.unwrap (w.unwrap v)) w).reply ∧
    (w.ShowsPayload v → (host.callMethod template TextMethod.format.name [v] w).Tells
      (host.stringify v w).reply) := by
  -- The value settles, so its text is one and the same in every world that has grown out of
  -- this one.
  obtain ⟨reply, hsettles⟩ :=
    Natives.exists_settles hgrounded hsingletons hv hquiet [] .plain
  have hreply : (host.stringify v w).reply = reply :=
    Natives.render_settled hgrounded hsettles hv (.refl w)
  have hformat : (host.callMethod template TextMethod.format.name [v] w).Tells
      (host.stringify (w.unwrap (w.unwrap v)) w).reply := callMethod_format_tells htemplate
  refine ⟨dispatch_add_tells hempty, ?_, hformat, fun hshows => ?_⟩
  · -- To join, the values of the list are made objects first.
    obtain ⟨p, w₁, lo, hi, hiterated, hgrows, hp, hpo, hlo, hle, hhi⟩ := exists_iterated hlist
    have hjoined : (host.stringify (.object p) w₁).reply = reply :=
      Natives.render_settled_object hgrounded hsettles hv hgrows hp hpo hlo hle hhi
    rw [hreply, ← hjoined]
    exact callMethod_join_tells hseparator hiterated
  · -- Formatting shows the payload, which settles with the same reply.
    obtain ⟨reply', hvalue, hpayload⟩ :=
      Natives.exists_settles_payload hgrounded hsingletons hv hquiet hshows
    have hknown := hgrounded.references_unwrap (hgrounded.references_unwrap hv)
    have hsame : (host.stringify (w.unwrap (w.unwrap v)) w).reply = (host.stringify v w).reply :=
      (Natives.render_settled hgrounded hpayload hknown (.refl w)).trans
        (Natives.render_settled hgrounded hvalue hv (.refl w)).symm
    rw [← hsame]
    exact hformat

/-- A type with a text of its own, the objects of which store what they are made of. -/
def customType (ident : Nat) : TypeDescriptor :=
  (TypeBuilder.new "T" .type
    |>.slot .init (.native "store")
    |>.slot .str (.native "text")).build (.declared ident)

/-- The empty string and the template for a text. -/
def twoStrings : World := ((World.initial.toObject (.text "")).2.toObject (.text "%s")).2

/-- The two strings, and an object with a text of its own that holds the integer five. -/
def besideCustom : World :=
  let (ident, w) := twoStrings.freshIdent
  (w.box (customType ident) (.int 5)).2

theorem reachable_besideCustom : besideCustom.Reachable Stock.host := by
  have hinitial : World.initial.Reachable Stock.host := .initial
  have hempty := hinitial.step (.convert (.text "")) (by simp [Operation.values]) (.inl rfl)
  have htemplate := hempty.step (.convert (.text "%s")) (by simp [Operation.values]) (.inl rfl)
  have hident := htemplate.step .freshIdent (by simp [Operation.values]) (.inl rfl)
  exact hident.step (.construct (customType 16) [.int 5]) (by simp [Operation.values]) (.inl rfl)

theorem grounded_besideCustom : besideCustom.Grounded := by
  have hempty := (World.grounded_initial.toObject (Value.within_text "")).onward.beside
  have htemplate := (hempty.toObject (Value.within_text "%s")).onward.beside
  have hident : twoStrings.freshIdent.2.Grounded := htemplate.freshIdent.beside
  have htype : twoStrings.freshIdent.2.ClearType .nothing (customType 16) := by
    refine ⟨fun o ho => absurd ho List.not_mem_nil, fun n hn => ?_⟩
    obtain rfl : 16 = n := TypeId.declared.inj hn
    exact ⟨by decide, id⟩
  obtain ⟨-, hallocate⟩ := hident.allocate htype
  exact (hallocate.beside.setProperty (hident.outside_allocate _) payloadName
    (Value.within_int 5)).beside

theorem hasSingletons_besideCustom : besideCustom.HasSingletons := by
  intro s hs
  simp only [World.singletons, List.mem_cons, List.not_mem_nil, or_false] at hs
  rcases hs with rfl | rfl | rfl <;> rfl

theorem isString_besideCustom :
    besideCustom.IsString ⟨3⟩ "" ∧ besideCustom.IsString ⟨12⟩ "%s" := by
  have hempty := World.initial.isString_toObject ""
  have htemplate := (World.initial.toObject (.text "")).2.isString_toObject "%s"
  have hident : ∀ w : World, w.Grows w.freshIdent.2 :=
    fun _ => ⟨Nat.le_refl _, fun _ => rfl, rfl⟩
  have hgrows : twoStrings.Grows besideCustom := (hident _).trans (World.box_grows _ _ _)
  exact ⟨(hempty.grows (World.toObject_grows _ _)).grows hgrows, htemplate.grows hgrows⟩

/-- The object and the template are shown without side effects. -/
theorem quiet_besideCustom {o p : ObjectId} (ho : o = ⟨21⟩ ∨ o = ⟨12⟩)
    (h : besideCustom.Meets (.object o) p) : Stock.host.natives.Quiet besideCustom p := by
  cases h with
  | self =>
    intro form slot name hhandler
    rcases ho with rfl | rfl
    · obtain ⟨rfl, rfl⟩ : slot = .str ∧ name = "text" := by
        cases form <;> cases hhandler <;> exact ⟨rfl, rfl⟩
      have hrun : ∀ w₁, Stock.host.natives "text" ⟨21⟩ [] w₁ = .done (.text "custom") w₁ :=
        fun _ => rfl
      refine ⟨.result "custom", fun {w₁} _ => ⟨rfl, fun {w₂} hend => ?_⟩⟩
      rcases hend with ⟨v, hend⟩ | ⟨f, hend⟩ <;> rw [hrun] at hend <;> cases hend
      exact .refl w₁
    · cases form <;> cases hhandler
  | element hshows =>
    obtain ⟨form, slot, hhandler⟩ := hshows
    rcases ho with rfl | rfl <;> cases form <;> cases hhandler

/-- What the object shows, and what its payload does. -/
theorem stringify_besideCustom :
    (Stock.host.stringify (.object ⟨21⟩) besideCustom).reply = .result "custom" ∧
    (Stock.host.stringify (besideCustom.unwrap (besideCustom.unwrap (.object ⟨21⟩)))
      besideCustom).reply = .result "5" :=
  ⟨rfl, rfl⟩

/-- The object is formatted as the integer, and added and joined as it shows itself;
    the template shows its payload. -/
theorem text_paths_agree_custom :
    (Stock.host.dispatch ⟨3⟩ .add [.object ⟨21⟩] besideCustom).Tells (.result "custom") ∧
    (Stock.host.callMethod ⟨12⟩ TextMethod.join.name [.list [.object ⟨21⟩]] besideCustom).Tells
      (.result "custom") ∧
    (Stock.host.callMethod ⟨12⟩ TextMethod.format.name [.object ⟨21⟩] besideCustom).Tells
      (.result "5") ∧
    (Stock.host.callMethod ⟨12⟩ TextMethod.format.name [.object ⟨12⟩] besideCustom).Tells
      (.result "%s") := by
  obtain ⟨hempty, htemplate⟩ := isString_besideCustom
  obtain ⟨hcustom, hinteger⟩ := stringify_besideCustom
  have htext : (Stock.host.stringify (.object ⟨12⟩) besideCustom).reply = .result "%s" := rfl
  obtain ⟨hadded, hjoined, hformatted, -⟩ :=
    @text_paths_agree Stock.host besideCustom (.object ⟨21⟩) (.list [.object ⟨21⟩]) ⟨3⟩ ⟨12⟩ ⟨12⟩
      "%s" grounded_besideCustom hasSingletons_besideCustom (by decide)
      (fun _ h => quiet_besideCustom (.inl rfl) h) rfl hempty htemplate htemplate
  obtain ⟨-, -, -, hshows⟩ :=
    @text_paths_agree Stock.host besideCustom (.object ⟨12⟩) (.list [.object ⟨12⟩]) ⟨3⟩ ⟨12⟩ ⟨12⟩
      "%s" grounded_besideCustom hasSingletons_besideCustom (by decide)
      (fun _ h => quiet_besideCustom (.inr rfl) h) rfl hempty htemplate htemplate
  rw [hcustom] at hadded hjoined
  rw [hinteger] at hformatted
  -- The template itself is a value whose own text is its payload.
  have hown : besideCustom.ShowsPayload (.object ⟨12⟩) :=
    .own (u := .text "%s") rfl rfl rfl (fun _ h => by cases h)
  have hsame := hshows hown
  rw [htext] at hsame
  exact ⟨hadded, hjoined, hformatted, hsame⟩

/-- There is no one reply that the three operations tell of the object, although it is
    shown without side effects. -/
theorem custom_text_not_formatted :
    besideCustom.Reachable Stock.host ∧ besideCustom.IsString ⟨3⟩ "" ∧
    besideCustom.IsString ⟨12⟩ "%s" ∧
    (∀ p, besideCustom.Meets (.object ⟨21⟩) p → Stock.host.natives.Quiet besideCustom p) ∧
    ¬ ∃ reply,
      (Stock.host.callMethod ⟨12⟩ TextMethod.format.name [.object ⟨21⟩] besideCustom).Tells reply ∧
      (Stock.host.dispatch ⟨3⟩ .add [.object ⟨21⟩] besideCustom).Tells reply ∧
      (Stock.host.callMethod ⟨12⟩ TextMethod.join.name [.list [.object ⟨21⟩]] besideCustom).Tells
        reply := by
  obtain ⟨hempty, htemplate⟩ := isString_besideCustom
  refine ⟨reachable_besideCustom, hempty, htemplate, fun _ h => quiet_besideCustom (.inl rfl) h, ?_⟩
  rintro ⟨reply, hformatted, hadded, -⟩
  obtain ⟨hcustom, hinteger⟩ := stringify_besideCustom
  have hadd := (dispatch_add_tells hempty).functional hadded
  have hformat := (callMethod_format_tells htemplate).functional hformatted
  rw [hcustom] at hadd
  rw [hinteger, ← hadd] at hformat
  exact absurd (Reply.result.inj hformat) (by decide)

end DynamicObjects
