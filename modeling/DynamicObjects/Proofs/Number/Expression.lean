import DynamicObjects.Proofs.Array.Sorting
import DynamicObjects.Proofs.Number.Division
import DynamicObjects.Proofs.Number.Truncation

/-! # Expressions over integers

    Integers are added, subtracted and multiplied exactly, or not at all.  So the
    value of an expression is the exact one, unless an operation in it overflows:
    then its operands have 64 bits and its result has not.

    The argument:
    1. An operation on integers adds a single object, which holds the exact result,
       or overflows and adds none.
    2. Operands at hand are read in a later world, after what stands to the left of
       them, but that has not changed them.
    3. By induction on the expression, all objects that are added hold exact values
       of subexpressions.

    Main results:
    - `IntegerOp.dispatch_exact`: one operation
    - `IntegerExpression.evaluate_exact`: a whole expression -/

namespace DynamicObjects

/-! ## Operations -/

/-- An operation on integers that gives an integer. -/
inductive IntegerOp where
  | add | sub | mul

namespace IntegerOp

/-- The operation among those on all numbers. -/
def toNumberOp : IntegerOp → NumberOp
  | add => .add
  | sub => .sub
  | mul => .mul

/-- The mathematical operation. -/
def exact : IntegerOp → Int → Int → Int
  | add => (· + ·)
  | sub => (· - ·)
  | mul => (· * ·)

end IntegerOp

/-- The integer that a value is, raw or as an object: truth values are zero and one. -/
def World.integer? (w : World) (v : Value) : Option Int := (w.unwrap v).exactInteger?

/-- An object is an integer object of this value. -/
def World.HoldsInteger (w : World) (o : ObjectId) (i : Int) : Prop :=
  ∃ n : Int64, n.toInt = i ∧ w.HoldsNumber o (.int n)

section operations
variable {w w' : World} {o : ObjectId} {i : Int}

theorem World.HoldsInteger.grows (h : w.HoldsInteger o i) (hgrows : w.Grows w') :
    w'.HoldsInteger o i := by
  obtain ⟨n, hn, htype, hpayload⟩ := h
  have ho := World.index_lt_of_property?_eq_some hpayload
  refine ⟨n, hn, ?_, ?_⟩
  · rw [World.typeOf, hgrows.object_eq ho]
    exact htype
  · rw [World.payload?, hgrows.property?_eq ho]
    exact hpayload

/-- Integers have no methods: one object is all that is added for an integer. -/
theorem World.size_toObject_int (w : World) (n : Int64) :
    (w.toObject (.int n)).2.heap.size = w.heap.size + 1 := by
  have hallocate : w.allocate .integer = w.add (.bare .integer) := rfl
  rw [World.toObject, World.box, hallocate]
  exact (World.size_setProperty _ _ _ _).trans (World.size_add w _)

/-- Arithmetic takes what is an integer as the same one. -/
theorem World.ofValue?_of_integer? {v : Value} {j : Int} (h : w.integer? v = some j) :
    ∃ n : Int64, Number.ofValue? (w.unwrap v) = some (.int n) ∧ n.toInt = j := by
  rw [World.integer?] at h
  cases hu : w.unwrap v with
  | int n =>
    rw [hu] at h
    exact ⟨n, rfl, Option.some.inj h⟩
  | bool b =>
    rw [hu] at h
    refine ⟨if b then 1 else 0, rfl, ?_⟩
    rw [← Option.some.inj h]
    cases b <;> rfl
  | _ =>
    rw [hu] at h
    cases h

theorem toInt64?_eq_some (h : FitsInt64 i) : ∃ n : Int64, Literal.toInt64? i = some n ∧
    n.toInt = i := by
  have hmin : Int64.minValue.toInt = -2 ^ 63 := Int64.toInt_minValue
  have hmax : Int64.maxValue.toInt = 2 ^ 63 - 1 := Int64.toInt_maxValue
  obtain ⟨hle, hge⟩ := h
  exact ⟨Int64.ofInt i, if_pos ⟨hle, hge⟩, Int64.toInt_ofInt_of_le (by omega) (by omega)⟩

theorem onInts_eq (op : IntegerOp) (m n : Int64) :
    op.toNumberOp.onInts m n =
      match Literal.toInt64? (op.exact m.toInt n.toInt) with
      | some k => .ok (.int k)
      | none => .error (.integerOverflow op.toNumberOp.symbol) := by
  cases op <;> rfl

/-- **An operation** on integers gives the exact result as a new object, or an
    overflow if that does not fit. -/
theorem IntegerOp.dispatch_exact (host : Host) (op : IntegerOp) {v : Value} {j : Int}
    (ho : w.HoldsInteger o i) (hv : w.integer? v = some j) :
    (FitsInt64 (op.exact i j) ∧ ∃ w', host.binary o op.toNumberOp.slot v w =
        .done (.object ⟨w.heap.size⟩) w' ∧ w.Grows w' ∧ w'.heap.size = w.heap.size + 1 ∧
        w'.HoldsInteger ⟨w.heap.size⟩ (op.exact i j)) ∨
      (¬ FitsInt64 (op.exact i j) ∧ host.binary o op.toNumberOp.slot v w =
        .raised (.integerOverflow op.toNumberOp.symbol) w) := by
  obtain ⟨m, rfl, htype, hpayload⟩ := ho
  have hm : Number.ofValue? (w.unwrap (.object o)) = some (.int m) := by
    rw [World.unwrap, hpayload]
    rfl
  obtain ⟨n, hn, rfl⟩ := World.ofValue?_of_integer? hv
  have hdispatch := host.dispatch_arithmetic (.inl htype) hm hn op.toNumberOp
  rw [Number.apply, onInts_eq] at hdispatch
  -- The exact result is computed first, and then asked whether it fits.
  by_cases hfits : FitsInt64 (op.exact m.toInt n.toInt)
  · obtain ⟨k, hk, hvalue⟩ := toInt64?_eq_some hfits
    rw [hk] at hdispatch
    exact .inl ⟨hfits, _, hdispatch, w.toObject_grows _, w.size_toObject_int k, k, hvalue,
      w.holdsNumber_toObject (.int k)⟩
  · have hnone : Literal.toInt64? (op.exact m.toInt n.toInt) = none := if_neg hfits
    rw [hnone] at hdispatch
    exact .inr ⟨hfits, hdispatch⟩

end operations

/-! ## Expressions -/

/-- An **expression** over integers.  Its leaves are new integer objects; a right
    operand may also be a value at hand. -/
inductive IntegerExpression where
  | literal (n : Int64)
  | node (op : IntegerOp) (left right : IntegerExpression)
  | nodeWith (op : IntegerOp) (left : IntegerExpression) (right : Value)

namespace IntegerExpression

/-- Evaluate an expression from its leaves up, from left to right. -/
def evaluate (host : Host) : IntegerExpression → Run Value
  | literal n => Run.step fun w => w.toValue (.int n)
  | node op left right => do
    let x ← left.evaluate host
    let y ← right.evaluate host
    let this ← Run.step fun w => w.toObject x
    host.binary this op.toNumberOp.slot y
  | nodeWith op left y => do
    let x ← left.evaluate host
    let this ← Run.step fun w => w.toObject x
    host.binary this op.toNumberOp.slot y

/-- All parts of an expression that are expressions, and it itself. -/
def subexpressions : IntegerExpression → List IntegerExpression
  | literal n => [literal n]
  | node op left right => node op left right :: (left.subexpressions ++ right.subexpressions)
  | nodeWith op left y => nodeWith op left y :: left.subexpressions

/-- The operands at hand are integers or truth values, raw or as objects. -/
def Reads (w : World) : IntegerExpression → Prop
  | literal _ => True
  | node _ left right => left.Reads w ∧ right.Reads w
  | nodeWith _ left y => left.Reads w ∧ ∃ j, w.integer? y = some j

/-- The **exact value** of an expression. -/
def value (w : World) : IntegerExpression → Int
  | literal n => n.toInt
  | node op left right => op.exact (left.value w) (right.value w)
  | nodeWith op left y => op.exact (left.value w) ((w.integer? y).getD 0)

/-- The exact values of both operands; a literal has none. -/
def operands (w : World) : IntegerExpression → List Int
  | literal _ => []
  | node _ left right => [left.value w, right.value w]
  | nodeWith _ left y => [left.value w, (w.integer? y).getD 0]

/-- An expression **overflows**: its operands have 64 bits, its value has not. -/
def Overflows (w : World) (e : IntegerExpression) : Prop :=
  (∀ i ∈ e.operands w, FitsInt64 i) ∧ ¬ FitsInt64 (e.value w)

/-- Between two worlds nothing is changed, and all that is added are integer objects
    which hold exact values of subexpressions. -/
structure Adds (e : IntegerExpression) (start w w' : World) : Prop where
  grows : w.Grows w'
  holds : ∀ o : ObjectId, w.heap.size ≤ o.index → o.index < w'.heap.size →
    ∃ s ∈ e.subexpressions, w'.HoldsInteger o (s.value start)

section evaluation
variable {host : Host} {start w w₁ w₂ : World} {e part : IntegerExpression}

theorem fitsInt64_toInt (n : Int64) : FitsInt64 n.toInt := ⟨n.minValue_le_toInt, n.toInt_le⟩

theorem fitsInt64_of_holdsInteger {o : ObjectId} {i : Int} (h : w.HoldsInteger o i) :
    FitsInt64 i := by
  obtain ⟨n, rfl, -⟩ := h
  exact fitsInt64_toInt n

theorem fitsInt64_of_integer? {v : Value} {j : Int} (h : w.integer? v = some j) :
    FitsInt64 j := by
  obtain ⟨n, -, rfl⟩ := World.ofValue?_of_integer? h
  exact fitsInt64_toInt n

theorem self_mem_subexpressions (e : IntegerExpression) : e ∈ e.subexpressions := by
  cases e <;> exact List.mem_cons_self

theorem Adds.refl (e : IntegerExpression) (start w : World) : e.Adds start w w where
  grows := .refl w
  holds _ ho hlt := absurd hlt (Nat.not_lt.mpr ho)

/-- Parts of a part are parts. -/
theorem Adds.mono (h : part.Adds start w w₁) (hpart : part.subexpressions ⊆ e.subexpressions) :
    e.Adds start w w₁ where
  grows := h.grows
  holds o ho hlt := by
    obtain ⟨s, hs, hholds⟩ := h.holds o ho hlt
    exact ⟨s, hpart hs, hholds⟩

theorem Adds.trans (h₁ : e.Adds start w w₁) (h₂ : e.Adds start w₁ w₂) : e.Adds start w w₂ where
  grows := h₁.grows.trans h₂.grows
  holds o ho hlt := by
    by_cases hold : o.index < w₁.heap.size
    · obtain ⟨s, hs, hholds⟩ := h₁.holds o ho hold
      exact ⟨s, hs, hholds.grows h₂.grows⟩
    · exact h₂.holds o (Nat.not_lt.mp hold) hlt

/-- One object is added, which holds the value of the whole expression. -/
theorem Adds.whole (hgrows : w.Grows w₁) (hsize : w₁.heap.size = w.heap.size + 1)
    (hholds : w₁.HoldsInteger ⟨w.heap.size⟩ (e.value start)) : e.Adds start w w₁ where
  grows := hgrows
  holds o ho hlt := by
    have hindex : o.index = w.heap.size := by omega
    obtain rfl : o = ⟨w.heap.size⟩ := congrArg ObjectId.mk hindex
    exact ⟨e, e.self_mem_subexpressions, hholds⟩

/-- How an evaluation from `w` on ends, where the operands at hand are those of
    `start`: with the exact value and no overflow, or with an overflow. -/
def Ends (e : IntegerExpression) (start w : World) : Outcome Value → Prop
  | .done v w' => e.Adds start w w' ∧ (∃ o, v = .object o ∧ w'.HoldsInteger o (e.value start)) ∧
      ∀ s ∈ e.subexpressions, FitsInt64 (s.value start)
  | .raised f w' => e.Adds start w w' ∧ f.kind = .runtimeError ∧
      ∃ s ∈ e.subexpressions, s.Overflows start
  | .diverged => False

/-- A part is evaluated, and then the rest. -/
theorem Ends.bind {r : Run Value} {next : Value → Run Value} (hbefore : e.Adds start w w₁)
    (h : part.Ends start w₁ (r w₁)) (hpart : part.subexpressions ⊆ e.subexpressions)
    (hnext : ∀ o w₂, e.Adds start w w₂ → w₁.Grows w₂ → w₂.HoldsInteger o (part.value start) →
      (∀ s ∈ part.subexpressions, FitsInt64 (s.value start)) →
      e.Ends start w (next (.object o) w₂)) :
    e.Ends start w ((r >>= next) w₁) := by
  rw [Run.bind_apply]
  cases hr : r w₁ with
  | done v w₂ =>
    rw [hr] at h
    obtain ⟨hadds, ⟨o, rfl, hholds⟩, hfits⟩ := h
    exact hnext o w₂ (hbefore.trans (hadds.mono hpart)) hadds.grows hholds hfits
  | raised f w₂ =>
    rw [hr] at h
    obtain ⟨hadds, hkind, s, hs, hoverflows⟩ := h
    exact ⟨hbefore.trans (hadds.mono hpart), hkind, s, hpart hs, hoverflows⟩
  | diverged =>
    rw [hr] at h
    exact h.elim

/-- The operation of the whole expression comes last. -/
theorem Ends.operation (op : IntegerOp) {o : ObjectId} {v : Value} {i j : Int}
    (hbefore : e.Adds start w w₁) (ho : w₁.HoldsInteger o i) (hv : w₁.integer? v = some j)
    (hvalue : e.value start = op.exact i j) (hoperands : e.operands start = [i, j])
    (hparts : ∀ s ∈ e.subexpressions, s = e ∨ FitsInt64 (s.value start)) :
    e.Ends start w (host.binary o op.toNumberOp.slot v w₁) := by
  rcases op.dispatch_exact host ho hv with
    ⟨hfits, w₂, hdone, hgrows, hsize, hholds⟩ | ⟨hoverflow, hraised⟩
  · rw [hdone]
    rw [← hvalue] at hfits hholds
    refine ⟨hbefore.trans (.whole hgrows hsize hholds), ⟨_, rfl, hholds⟩, fun s hs => ?_⟩
    rcases hparts s hs with rfl | hs
    · exact hfits
    · exact hs
  · rw [hraised]
    refine ⟨hbefore, rfl, e, e.self_mem_subexpressions, ?_, hvalue ▸ hoverflow⟩
    rw [hoperands]
    simp [fitsInt64_of_holdsInteger ho, fitsInt64_of_integer? hv]

/-- What is at hand is still the same integer when its turn comes. -/
theorem integer?_grows {v : Value} {j : Int} (hgrows : w.Grows w₁) (h : w.integer? v = some j) :
    w₁.integer? v = some j := by
  rw [World.integer?] at h ⊢
  rw [hgrows.unwrap_eq rfl fun o ho => by rw [ho] at h; cases h]
  exact h

/-- **Evaluation**, by induction on the expression: the operands at hand are read in
    the worlds that the parts to their left have left. -/
theorem evaluate_ends (host : Host) (hstart : start.Grows w) (h : e.Reads start) :
    e.Ends start w (e.evaluate host w) := by
  induction e generalizing w with
  | literal n =>
    have hholds : (w.toObject (.int n)).2.HoldsInteger ⟨w.heap.size⟩ n.toInt :=
      ⟨n, rfl, w.holdsNumber_toObject (.int n)⟩
    change Ends _ start w (.done (.object ⟨w.heap.size⟩) (w.toObject (.int n)).2)
    refine ⟨.whole (w.toObject_grows _) (w.size_toObject_int n) hholds, ⟨_, rfl, hholds⟩, ?_⟩
    intro s hs
    obtain rfl := List.mem_singleton.mp hs
    exact fitsInt64_toInt n
  | node op left right ihl ihr =>
    rw [evaluate]
    refine Ends.bind (.refl _ _ w) (ihl hstart h.1) (by simp [subexpressions]) ?_
    intro x w₁ hadds₁ hgrows₁ hx hleft
    refine Ends.bind hadds₁ (ihr (hstart.trans hgrows₁) h.2) (by simp [subexpressions]) ?_
    intro y w₂ hadds₂ hgrows₂ hy hright
    obtain ⟨n, hn, -, hpayload⟩ := hy
    -- The right part has not changed what the left one has left.
    refine Ends.operation op (j := right.value start) hadds₂ (hx.grows hgrows₂) ?_ rfl rfl
      fun s hs => ?_
    · rw [World.integer?, World.unwrap, hpayload, ← hn]
      rfl
    · rw [subexpressions, List.mem_cons, List.mem_append] at hs
      exact hs.imp_right fun hs => hs.elim (hleft s) (hright s)
  | nodeWith op left y ih =>
    obtain ⟨hreads, j, hj⟩ := h
    rw [evaluate]
    refine Ends.bind (.refl _ _ w) (ih hstart hreads) (by simp [subexpressions]) ?_
    intro x w₁ hadds₁ hgrows₁ hx hleft
    -- The operand has been at hand since the start, but is read only now.
    refine Ends.operation op hadds₁ hx (integer?_grows (hstart.trans hgrows₁) hj) ?_ ?_
      fun s hs => ?_
    · rw [value, hj, Option.getD_some]
    · rw [operands, hj, Option.getD_some]
    · rw [subexpressions, List.mem_cons] at hs
      exact hs.imp_right (hleft s)

end evaluation

/-- **Integers are exact**: an expression whose operands are integers or truth values
    always ends.  Either its value is a new integer object which holds the exact one,
    and the value of every subexpression has 64 bits; or it fails, by an error at run
    time, and a subexpression overflows.  All objects that are added meanwhile are
    integers too, and hold exact values of subexpressions. -/
theorem evaluate_exact (host : Host) {e : IntegerExpression} {w : World} (h : e.Reads w) :
    ∃ w', e.Adds w w w' ∧
      ((∃ o, e.evaluate host w = .done (.object o) w' ∧ w'.HoldsInteger o (e.value w) ∧
          ∀ s ∈ e.subexpressions, FitsInt64 (s.value w)) ∨
        (∃ f, e.evaluate host w = .raised f w' ∧ f.kind = .runtimeError ∧
          ∃ s ∈ e.subexpressions, s.Overflows w)) := by
  have hends := evaluate_ends host (.refl w) h
  cases houtcome : e.evaluate host w with
  | done v w' =>
    rw [houtcome] at hends
    obtain ⟨hadds, ⟨o, rfl, hholds⟩, hfits⟩ := hends
    exact ⟨w', hadds, .inl ⟨o, rfl, hholds, hfits⟩⟩
  | raised f w' =>
    rw [houtcome] at hends
    obtain ⟨hadds, hkind, hoverflow⟩ := hends
    exact ⟨w', hadds, .inr ⟨f, rfl, hkind, hoverflow⟩⟩
  | diverged =>
    rw [houtcome] at hends
    exact hends.elim

/-- The least integer, times one and less true. -/
def belowTheLeast : IntegerExpression :=
  .nodeWith .sub (.node .mul (.literal Int64.minValue) (.literal 1)) (.bool true)

/-- Only the last operation overflows, by which the product is left. -/
theorem evaluate_exact_below_the_least :
    belowTheLeast.Reads World.initial ∧
      ∃ f w', belowTheLeast.evaluate Stock.host World.initial = .raised f w' ∧
        f.kind = .runtimeError := by
  have hreads : belowTheLeast.Reads World.initial := ⟨⟨trivial, trivial⟩, 1, rfl⟩
  refine ⟨hreads, ?_⟩
  obtain ⟨w', -, ⟨o, -, -, hfits⟩ | ⟨f, hraised, hkind, -⟩⟩ := evaluate_exact Stock.host hreads
  · have hwhole : belowTheLeast.value World.initial = Int64.minValue.toInt - 1 := by decide
    have hleast := (hfits _ (self_mem_subexpressions _)).1
    rw [hwhole] at hleast
    omega
  · exact ⟨f, w', hraised, hkind⟩

end IntegerExpression

end DynamicObjects
