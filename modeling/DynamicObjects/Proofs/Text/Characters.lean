import DynamicObjects.Proofs.Comparison.Scalars
import DynamicObjects.Proofs.Rendering.Legible
import DynamicObjects.Proofs.Rendering.TextPaths

/-! # Strings as sequences of characters

    A string is the sequence of its characters: what is added, repeated, joined or
    taken out of it is what the same operation on lists gives, however many bytes a
    character has.  Bytes are counted only where a repetition is refused.

    The argument:
    1. Text, raw or as a string object, is shown as it is, and the world stays.
    2. So the elements that are joined are shown as the texts that they are, also
       after they have become objects.
    3. Every operation makes its new string of the list that it should.

    Main results:
    - `Natives.stringify_text`: what a text is shown as
    - `strings_act_on_characters`: all operations -/

namespace DynamicObjects

/-! ## Texts and counts -/

namespace World

/-- A value **is text**, raw or as a string object. -/
inductive IsText (w : World) : Value → String → Prop where
  | raw (text : String) : IsText w (.text text) text
  | boxed {o : ObjectId} {text : String} (htype : w.typeOf o = .string)
      (hpayload : w.payload? o = some (.text text)) : IsText w (.object o) text

/-- A value **is an integer** of 64 bits, raw or as an integer object. -/
inductive IsInteger (w : World) : Value → Int64 → Prop where
  | raw (n : Int64) : IsInteger w (.int n) n
  | boxed {o : ObjectId} {n : Int64} (htype : w.typeOf o = .integer)
      (hpayload : w.payload? o = some (.int n)) : IsInteger w (.object o) n

variable {w w₁ : World} {v : Value} {o : ObjectId} {text : String} {n : Int64}

/-- The object that a text becomes is the same text. -/
theorem IsText.of_isConversion {start : Nat} (h : w.IsText v text) (hgrows : w.Grows w₁)
    (ho : w₁.IsConversion start o v) : w₁.IsText (.object o) text := by
  cases h with
  | raw =>
    obtain ⟨-, htype, hpayload⟩ := ho
    exact .boxed (Option.some.inj htype).symm hpayload
  | boxed htype hpayload =>
    obtain rfl := ho
    have hlt := index_lt_of_property?_eq_some hpayload
    exact .boxed ((hgrows.typeOf_eq hlt).trans htype) ((hgrows.payload?_eq hlt).trans hpayload)

/-- The objects that several texts become are the same texts, one by one. -/
theorem forall₂_isText {start lo hi : Nat} {os : List ObjectId} {items : List Value}
    {texts : List String} (h : List.Forall₂ w.IsText items texts) (hgrows : w.Grows w₁)
    (hos : List.Forall₂ (fun o v => w₁.IsConversion start o v ∧ w₁.IsInOrder lo hi o v) os items) :
    List.Forall₂ w₁.IsText (os.map .object) texts := by
  induction hos generalizing texts with
  | nil =>
    cases h
    exact .nil
  | cons ho _ ih =>
    cases h with
    | cons hv hrest => exact .cons (hv.of_isConversion hgrows ho.1) (ih hrest)

theorem IsText.typeOf_eq (h : w.IsText (.object o) text) : w.typeOf o = .string := by
  cases h with
  | boxed htype _ => exact htype

theorem IsText.unwrap_eq (h : w.IsText v text) : w.unwrap v = .text text := by
  cases h with
  | raw => rfl
  | boxed htype hpayload =>
    rw [unwrap, hpayload]
    rfl

theorem IsText.textOf (h : w.IsText (.object o) text) : Rendering.textOf w o = text :=
  Rendering.textOf_of_unwrap h.unwrap_eq

/-- What is iterated in a text are its characters. -/
theorem IsText.elements? (h : w.IsText v text) :
    w.elements? v = some ((text.toList.map String.singleton).map .text) := by
  rw [World.elements?, h.unwrap_eq, List.map_map]
  rfl

theorem IsInteger.repetitions (h : w.IsInteger v n) : Behaviour.repetitions w v = .ok n := by
  cases h with
  | raw => rfl
  | boxed htype hpayload =>
    rw [Behaviour.repetitions, isInstanceOf, htype, hpayload]
    rfl

theorem IsInteger.subscript (h : w.IsInteger v n) (container : String) :
    w.subscript container v = .ok n := by
  cases h with
  | raw => rfl
  | boxed htype hpayload =>
    rw [World.subscript, isInstanceOf, htype, hpayload]
    rfl

end World

/-! ## How text is shown -/

section shown
variable {natives : Natives} {w : World} {o : ObjectId} {u v : Value} {text : String}

/-- **An object** whose payload has a text of its own is shown as that text. -/
theorem Natives.stringify_ownText
    (hkind : TextForm.plain.handler? (w.typeOf o) = TextForm.plain.handler? (w.typeOfKind u))
    (hpayload : w.payload? o = some u) (htext : u.ownText? .plain = some text) :
    natives.stringify (.object o) w = .done text w := by
  obtain ⟨slot, how, hhandler, harray, halone⟩ := exists_alone_ownText hkind hpayload htext
  exact natives.render_alone hhandler harray halone

/-- **Text** is shown as it is. -/
theorem Natives.stringify_text (h : w.IsText v text) : natives.stringify v w = .done text w := by
  cases h with
  | raw => rfl
  | boxed htype hpayload =>
    exact stringify_ownText (u := .text text) (by rw [htype]; rfl) hpayload rfl

theorem stringifyAll_texts {items : List Value} {texts : List String}
    (h : List.Forall₂ w.IsText items texts) :
    Behaviour.stringifyAll natives items w = .done texts w := by
  induction h with
  | nil => rfl
  | cons hv _ ih =>
    simp only [Behaviour.stringifyAll, Run.bind_apply, Natives.stringify_text hv, ih,
      Run.pure_apply]

end shown

/-! ## What an operation gives -/

/-- An outcome **gives** characters: it is a new string of them, and what there was
    before is left as it is. -/
def Outcome.GivesCharacters (w : World) (cs : List Char) : Outcome Value → Prop
  | .done v w' => ∃ t, v = .object t ∧ w.Grows w' ∧ w'.IsString t (String.ofList cs)
  | .raised _ _ => False
  | .diverged => False

/-- A string **acts on characters**: its operations are those on the list of its
    characters.  The limit on repetitions is the only one, and counts bytes. -/
structure Host.ActsOnCharacters (host : Host) (w : World) (t : ObjectId) (text : String) :
    Prop where
  add : ∀ v more, w.IsText v more →
    (host.binary t .add v w).GivesCharacters w (text.toList ++ more.toList)
  mul : ∀ v n, w.IsInteger v n → text.utf8ByteSize * n.toInt.toNat ≤ Nat.pow 2 30 →
    (host.binary t .mul v w).GivesCharacters w (List.replicate n.toInt.toNat text.toList).flatten
  mul_tooLong : ∀ v n, w.IsInteger v n → Nat.pow 2 30 < text.utf8ByteSize * n.toInt.toNat →
    ∃ f, host.binary t .mul v w = .raised f w ∧ f.kind = .custom "MemoryError"
  len : host.dispatch t .len [] w = .done (Value.ofCount text.toList.length) w
  length : text.toList.length < Nat.pow 2 63 → host.length t w = .done text.toList.length w
  getItem : ∀ v i c, w.IsInteger v i → 0 ≤ i.toInt → text.toList[i.toInt.toNat]? = some c →
    (host.getItem t v w).GivesCharacters w [c]
  getItem_outOfRange : ∀ v i, w.IsInteger v i →
    ¬ (0 ≤ i.toInt ∧ i.toInt < text.toList.length) →
    host.getItem t v w = .raised (.indexOutOfRange text.toList.length i) w
  equals : ∀ p other, w.IsText (.object p) other →
    host.equals (.object t) (.object p) w = .done (decide (text.toList = other.toList)) w
  join : w.IsString t text → ∀ list items texts, w.unwrap list = .list items →
    List.Forall₂ w.IsText items texts →
    (host.callMethod t TextMethod.join.name [list] w).GivesCharacters w
      (List.intercalate text.toList (texts.map String.toList))
  join_text : w.IsString t text → text = "" → ∀ v other, w.IsText v other →
    (host.callMethod t TextMethod.join.name [v] w).GivesCharacters w other.toList

section operations
variable {host : Host} {w w₁ : World} {t p : ObjectId} {v list : Value}
    {text other : String} {n i : Int64}

/-- Every new string is made of its characters. -/
theorem newText_gives {cs : List Char} (hgrows : w.Grows w₁) (htext : text.toList = cs) :
    (Behaviour.newText text w₁).GivesCharacters w cs := by
  subst htext
  have hrun : Behaviour.newText text w₁ =
      .done (.object (w₁.toObject (.text text)).1) (w₁.toObject (.text text)).2 := rfl
  rw [hrun]
  refine ⟨_, rfl, hgrows.trans (w₁.toObject_grows _), ?_⟩
  rw [String.ofList_toList]
  exact w₁.isString_toObject text

theorem add_gives (ht : w.IsText (.object t) text) (hv : w.IsText v other) :
    (host.binary t .add v w).GivesCharacters w (text.toList ++ other.toList) := by
  have hslot : (w.typeOf t).slots .add = some .concatenate := by rw [ht.typeOf_eq]; rfl
  have hrun : host.binary t .add v w = Behaviour.newText (text ++ other) w := by
    rw [Host.binary, Host.dispatch_apply host hslot, Host.invoke, Behaviour.concatenate,
      Arguments.one]
    simp only [Run.bind_apply, Run.lift_ok, Run.read_apply, Natives.stringify_text hv, ht.textOf]
  rw [hrun]
  exact newText_gives (.refl w) String.toList_append

theorem toList_repeat (text : String) (n : Nat) :
    (if text = "" then "" else String.join (List.replicate n text)).toList =
      (List.replicate n text.toList).flatten := by
  split
  · next hempty => simp [hempty]
  · rw [String.toList_join, List.flatMap_replicate]

/-- A repetition is the repeated text, or too long. -/
theorem repeatText_eq (ht : w.IsText (.object t) text) (hv : w.IsInteger v n) :
    host.binary t .mul v w =
      (Run.ofExcept (Behaviour.repeated text n) >>= Behaviour.newText) w := by
  have hslot : (w.typeOf t).slots .mul = some .repeatText := by rw [ht.typeOf_eq]; rfl
  rw [Host.binary, Host.dispatch_apply host hslot, Host.invoke, Behaviour.repeatText,
    Arguments.one]
  simp only [Run.bind_apply, Run.lift_ok, Run.read_apply, id_eq, hv.repetitions, ht.textOf]
  rfl

theorem length_eq (ht : w.IsText (.object t) text) :
    host.dispatch t .len [] w = .done (Value.ofCount text.toList.length) w := by
  have hslot : (w.typeOf t).slots .len = some (.len .text) := by rw [ht.typeOf_eq]; rfl
  rw [Host.dispatch_apply host hslot, Host.invoke, Behaviour.textLength, Arguments.none]
  simp only [Run.bind_apply, Run.lift_ok, Behaviour.charsOf, Run.read_apply, Run.pure_apply,
    ht.textOf]

theorem getItem_eq (ht : w.IsText (.object t) text) (hv : w.IsInteger v i) :
    host.getItem t v w =
      (Run.ofExcept (Arguments.position text.toList.length i) >>= fun place =>
        Behaviour.newText (String.ofList ((text.toList.drop place).take 1))) w := by
  have hslot : (w.typeOf t).slots .getItem = some (.getItem .text) := by rw [ht.typeOf_eq]; rfl
  rw [Host.getItem, Host.dispatch_apply host hslot, Host.invoke, Behaviour.textGetItem,
    Arguments.one]
  simp only [Run.bind_apply, Run.lift_ok, Run.read_apply, id_eq, hv.subscript, Behaviour.charsOf,
    ht.textOf]
  rfl

theorem join_gives (ht : w.IsString t text) {items : List Value} {texts : List String}
    (hlist : w.elements? list = some items) (hitems : List.Forall₂ w.IsText items texts) :
    (host.callMethod t TextMethod.join.name [list] w).GivesCharacters w
      (List.intercalate text.toList (texts.map String.toList)) := by
  obtain ⟨os, w₁, lo, hi, hiterated, hgrows, hos, -⟩ := exists_iterated_all hlist
  have htexts := World.forall₂_isText hitems hgrows hos
  -- The separator is read after the elements have been converted.
  have hrun : host.callMethod t TextMethod.join.name [list] w =
      Behaviour.newText (String.intercalate text texts) w₁ := by
    rw [ht.callMethod, TextMethod.invoke, Arguments.one]
    simp only [Run.bind_apply, Run.lift_ok, hiterated, Run.read_apply, stringifyAll_texts htexts,
      (ht.grows hgrows).textOf]
  rw [hrun]
  exact newText_gives hgrows String.toList_intercalate

/-- Characters joined with nothing between them are the same characters. -/
theorem intercalate_singletons (cs : List Char) :
    List.intercalate [] ((cs.map String.singleton).map String.toList) = cs := by
  induction cs with
  | nil => rfl
  | cons c rest ih =>
    cases rest with
    | nil => simp [List.intercalate]
    | cons d rest =>
      simp only [List.map_cons, List.intercalate_cons_cons, String.toList_singleton,
        List.append_nil, List.singleton_append] at ih ⊢
      rw [ih]

theorem length_apply (ht : w.IsText (.object t) text) (hlt : text.toList.length < Nat.pow 2 63) :
    host.length t w = .done text.toList.length w := by
  have hcount : (Int64.ofNat text.toList.length).toInt = text.toList.length :=
    Int64.toInt_ofNat_of_lt hlt
  simp only [Host.length, Run.bind_apply, length_eq ht, Run.read_apply, id_eq, Value.ofCount,
    World.unwrap]
  rw [hcount, if_pos (Int.natCast_nonneg _), Int.toNat_natCast, Run.pure_apply]

end operations

/-- **Strings** are sequences of characters: addition appends, multiplication repeats as
    often as a nonnegative count says, the length is the number of characters, an index
    takes out one of them, two strings are equal if they have the same ones, and joining
    puts them between the elements.  Only a repetition of more than `2 ^ 30` bytes is
    refused. -/
theorem strings_act_on_characters (host : Host) {w : World} (hintact : w.SingletonsIntact)
    {t : ObjectId} {text : String} (ht : w.IsText (.object t) text) :
    host.ActsOnCharacters w t text where
  add _ _ hv := add_gives ht hv
  mul v n hv hle := by
    have hrepeated : Behaviour.repeated text n = .ok (if text = "" then "" else
        String.join (List.replicate n.toInt.toNat text)) := if_pos hle
    rw [repeatText_eq ht hv, hrepeated]
    exact newText_gives (.refl w) (toList_repeat text _)
  mul_tooLong v n hv hlt := by
    have hrepeated : Behaviour.repeated text n = .error .repetitionTooLong :=
      if_neg (Nat.not_le.mpr hlt)
    rw [repeatText_eq ht hv, hrepeated]
    exact ⟨.repetitionTooLong, rfl, rfl⟩
  len := length_eq ht
  length := length_apply ht
  getItem v i c hv hnonneg hc := by
    obtain ⟨hlt, hget⟩ := List.getElem?_eq_some_iff.mp hc
    have hposition : Arguments.position text.toList.length i = .ok i.toInt.toNat :=
      if_pos ⟨hnonneg, by omega⟩
    rw [getItem_eq ht hv, hposition]
    refine newText_gives (.refl w) ?_
    rw [String.toList_ofList, List.drop_eq_getElem_cons hlt, hget]
    rfl
  getItem_outOfRange v i hv hout := by
    have hposition : Arguments.position text.toList.length i =
        .error (.indexOutOfRange text.toList.length i) := if_neg hout
    rw [getItem_eq ht hv, hposition]
    rfl
  equals p other hp := by
    have hslot : (w.typeOf t).slots .eq = some (.eq .characters) := by rw [ht.typeOf_eq]; rfl
    have hanswer := host.equals_of_decidesAs hintact hslot
      (EqualityRule.characters_decidesAs ht.unwrap_eq hp.unwrap_eq (.text other) hp.typeOf_eq)
    rw [hanswer, decide_eq_decide.mpr String.toList_inj]
    rfl
  join hstring _ _ _ hlist hitems := by
    refine join_gives hstring ?_ hitems
    rw [World.elements?, hlist]
  join_text hstring hempty v other hv := by
    subst hempty
    have hitems : List.Forall₂ w.IsText ((other.toList.map String.singleton).map .text)
        (other.toList.map String.singleton) := by
      rw [List.forall₂_map_left_iff]
      exact List.forall₂_same.mpr fun s _ => .raw s
    -- With nothing in between, to join single characters is to put them in a row.
    have hchars : List.intercalate "".toList
        ((other.toList.map String.singleton).map String.toList) = other.toList := by
      rw [String.toList_empty, intercalate_singletons]
    rw [← hchars]
    exact join_gives hstring hv.elements? hitems

/-! ## Characters of more than one byte -/

/-- A string of two characters that have five bytes. -/
def twoCharacters : World := (World.initial.toObject (.text "é€")).2

/-- Three times five bytes are not too many, and index one is the second character. -/
theorem strings_act_on_characters_two :
    (Stock.host.binary ⟨3⟩ .mul (.int 3) twoCharacters).GivesCharacters twoCharacters
        ['é', '€', 'é', '€', 'é', '€'] ∧
      (Stock.host.getItem ⟨3⟩ (.int 1) twoCharacters).GivesCharacters twoCharacters ['€'] ∧
      ∃ f, Stock.host.binary ⟨3⟩ .mul (.int 214748365) twoCharacters = .raised f twoCharacters ∧
        f.kind = .custom "MemoryError" := by
  have hintact : twoCharacters.SingletonsIntact :=
    World.SingletonsIntact.grows (fun _ _ => rfl) World.hasSingletons_initial
      (World.initial.toObject_grows _)
  have hstring : twoCharacters.IsString ⟨3⟩ "é€" := World.initial.isString_toObject "é€"
  have hacts := strings_act_on_characters Stock.host hintact (.boxed hstring.type hstring.payload)
  have hbytes : ("é€" : String).utf8ByteSize = 5 := by decide
  have htwo : ("é€" : String).toList = ['é', '€'] := by decide
  refine ⟨?_, ?_, ?_⟩
  · have hthree := hacts.mul _ 3 (.raw 3) (by rw [hbytes]; decide)
    rwa [htwo] at hthree
  · exact hacts.getItem _ 1 _ (.raw 1) (by decide) (by rw [htwo]; rfl)
  · exact hacts.mul_tooLong _ 214748365 (.raw _) (by rw [hbytes]; decide)

end DynamicObjects
