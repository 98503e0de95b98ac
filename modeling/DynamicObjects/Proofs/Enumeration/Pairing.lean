import Mathlib.Order.Basic

/-! # Pairings of numbers

    Two worlds that hold the same objects in different places are compared along a
    pairing: it tells which place of the one goes with which place of the other, and
    likewise for the identities that have been given out.  A pairing is one to one, and
    may leave numbers without a partner.

    The argument:
    1. New places and identities come next after those that there are, so that a pairing
       grows by pairs of new numbers on both sides (`Pairing.Onward`).
    2. Pairings can be turned round and chained, and what is paired onward along both
       parts of a chain is paired onward along the chain.
    3. If two things come about in one order on the one side and in the other order on
       the other side, what each is paired with still makes one pairing.

    Main results:
    - `Pairing.Onward.trans`, `Pairing.onward_insert`: one step after the other
    - `Pairing.Onward.chain`: along a chain
    - `Pairing.Onward.exists_crossed`: in both orders -/

namespace DynamicObjects

/-- A **pairing** of numbers: each has at most one partner. -/
structure Pairing where
  rel : Nat → Nat → Prop
  unique : ∀ {i j i' j' : Nat}, rel i j → rel i' j' → (i = i' ↔ j = j')

namespace Pairing

/-- A pairing holds all the pairs of another one. -/
instance : LE Pairing := ⟨fun m n => ∀ {i j : Nat}, m.rel i j → n.rel i j⟩

/-- Each number below a bound is its own partner. -/
def upTo (n : Nat) : Pairing where
  rel i j := i = j ∧ i < n
  unique := by
    rintro i j i' j' ⟨rfl, -⟩ ⟨rfl, -⟩
    exact Iff.rfl

/-- The same pairs turned round. -/
def symm (m : Pairing) : Pairing where
  rel i j := m.rel j i
  unique h h' := (m.unique h h').symm

/-- The partners of partners. -/
def trans (m n : Pairing) : Pairing where
  rel i k := ∃ j, m.rel i j ∧ n.rel j k
  unique := by
    rintro i k i' k' ⟨j, hm, hn⟩ ⟨j', hm', hn'⟩
    exact (m.unique hm hm').trans (n.unique hn hn')

/-- All numbers that have partners are **below** bounds. -/
def Below (m : Pairing) (a b : Nat) : Prop := ∀ {i j : Nat}, m.rel i j → i < a ∧ j < b

/-- One more pair, of numbers that come next on both sides. -/
def insert (m : Pairing) (a b : Nat) (h : m.Below a b) : Pairing where
  rel i j := m.rel i j ∨ i = a ∧ j = b
  unique := by
    rintro i j i' j' (hm | ⟨rfl, rfl⟩) (hm' | ⟨rfl, rfl⟩)
    · exact m.unique hm hm'
    · exact iff_of_false (Nat.ne_of_lt (h hm).1) (Nat.ne_of_lt (h hm).2)
    · exact iff_of_false (Nat.ne_of_gt (h hm').1) (Nat.ne_of_gt (h hm').2)
    · exact iff_of_true rfl rfl

/-- A pairing below the bounds `a` and `b` has gone **onward** to one below `a₁` and
    `b₁`: none of its pairs is lost, and the numbers in between are paired among each
    other, none of them left out. -/
structure Onward (m : Pairing) (a b : Nat) (m₁ : Pairing) (a₁ b₁ : Nat) : Prop where
  le : m ≤ m₁
  left_le : a ≤ a₁
  right_le : b ≤ b₁
  below : m₁.Below a₁ b₁
  new : ∀ {i j : Nat}, m₁.rel i j → m.rel i j ∨ a ≤ i ∧ b ≤ j
  left : ∀ i, a ≤ i → i < a₁ → ∃ j, m₁.rel i j
  right : ∀ j, b ≤ j → j < b₁ → ∃ i, m₁.rel i j

section onward
variable {m m₁ m₂ : Pairing} {a b a₁ b₁ a₂ b₂ c₁ : Nat}

theorem onward_refl (h : m.Below a b) : m.Onward a b m a b where
  le := id
  left_le := Nat.le_refl a
  right_le := Nat.le_refl b
  below := h
  new := .inl
  left _ hle hlt := absurd hlt (Nat.not_lt.mpr hle)
  right _ hle hlt := absurd hlt (Nat.not_lt.mpr hle)

/-- The next numbers are paired with each other. -/
theorem onward_insert (h : m.Below a b) : m.Onward a b (m.insert a b h) (a + 1) (b + 1) where
  le := .inl
  left_le := Nat.le_succ a
  right_le := Nat.le_succ b
  below := by
    rintro i j (hm | ⟨rfl, rfl⟩)
    · exact ⟨Nat.lt_succ_of_lt (h hm).1, Nat.lt_succ_of_lt (h hm).2⟩
    · exact ⟨Nat.lt_succ_self i, Nat.lt_succ_self j⟩
  new := by
    rintro i j (hm | ⟨rfl, rfl⟩)
    · exact .inl hm
    · exact .inr ⟨Nat.le_refl i, Nat.le_refl j⟩
  left i hle hlt := ⟨b, .inr ⟨Nat.le_antisymm (Nat.le_of_lt_succ hlt) hle, rfl⟩⟩
  right j hle hlt := ⟨a, .inr ⟨rfl, Nat.le_antisymm (Nat.le_of_lt_succ hlt) hle⟩⟩

theorem Onward.trans (h₁ : m.Onward a b m₁ a₁ b₁) (h₂ : m₁.Onward a₁ b₁ m₂ a₂ b₂) :
    m.Onward a b m₂ a₂ b₂ where
  le h := h₂.le (h₁.le h)
  left_le := Nat.le_trans h₁.left_le h₂.left_le
  right_le := Nat.le_trans h₁.right_le h₂.right_le
  below := h₂.below
  new h := by
    rcases h₂.new h with h | ⟨hi, hj⟩
    · exact h₁.new h
    · exact .inr ⟨Nat.le_trans h₁.left_le hi, Nat.le_trans h₁.right_le hj⟩
  left i hle hlt := by
    by_cases hi : i < a₁
    · exact (h₁.left i hle hi).imp fun _ h => h₂.le h
    · exact h₂.left i (Nat.le_of_not_lt hi) hlt
  right j hle hlt := by
    by_cases hj : j < b₁
    · exact (h₁.right j hle hj).imp fun _ h => h₂.le h
    · exact h₂.right j (Nat.le_of_not_lt hj) hlt

/-- **Along a chain**: the first part goes on from the numbers that have partners, each of
    them its own, and the second part from these partners. -/
theorem Onward.chain (hm : m.Below a b) (h₁ : (m.trans m.symm).Onward a a m₁ a₁ c₁)
    (h₂ : m.Onward a b m₂ c₁ b₂) : m.Onward a b (m₁.trans m₂) a₁ b₂ where
  le {i j} h := ⟨i, h₁.le ⟨j, h, h⟩, h₂.le h⟩
  left_le := h₁.left_le
  right_le := h₂.right_le
  below := fun ⟨_, h, h'⟩ => ⟨(h₁.below h).1, (h₂.below h').2⟩
  new := by
    rintro i k ⟨j, h, h'⟩
    -- An old number in the middle has old partners, and a new one new partners.
    rcases h₁.new h with ⟨l, hil, hjl⟩ | ⟨hi, hj⟩
    · obtain rfl := (m.unique hil hjl).mpr rfl
      rcases h₂.new h' with h' | ⟨hi, -⟩
      · exact .inl h'
      · exact absurd hi (Nat.not_le.mpr (hm hil).1)
    · rcases h₂.new h' with h' | ⟨-, hk⟩
      · exact absurd hj (Nat.not_le.mpr (hm h').1)
      · exact .inr ⟨hi, hk⟩
  left i hle hlt := by
    obtain ⟨j, h⟩ := h₁.left i hle hlt
    rcases h₁.new h with ⟨l, hil, -⟩ | ⟨-, hj⟩
    · exact absurd hle (Nat.not_le.mpr (hm hil).1)
    · obtain ⟨k, h'⟩ := h₂.left j hj (h₁.below h).2
      exact ⟨k, j, h, h'⟩
  right k hle hlt := by
    obtain ⟨j, h'⟩ := h₂.right k hle hlt
    rcases h₂.new h' with h' | ⟨hj, -⟩
    · exact absurd hle (Nat.not_le.mpr (hm h').2)
    · obtain ⟨i, h⟩ := h₁.right j hj (h₂.below h').1
      exact ⟨i, j, h, h'⟩

/-- **In both orders**: what comes first on the left side comes second on the right side,
    and the other way round. -/
theorem Onward.exists_crossed (hm : m.Below a b) (h₁ : m.Onward a b₁ m₁ a₁ b₂)
    (h₂ : m.Onward a₁ b m₂ a₂ b₁) :
    ∃ m₃ : Pairing, m.Onward a b m₃ a₂ b₂ ∧ m₁ ≤ m₃ ∧ m₂ ≤ m₃ ∧
      ∀ {i j : Nat}, m₃.rel i j → m₁.rel i j ∨ m₂.rel i j := by
  -- A pair of one and a pair of the other are the same old pair or differ on both sides.
  have hcross : ∀ {i j i' j' : Nat}, m₁.rel i j → m₂.rel i' j' → (i = i' ↔ j = j') := by
    intro i j i' j' h h'
    have hi := (h₁.below h).1
    have hj' := (h₂.below h').2
    rcases h₁.new h with hold | ⟨hi₁, hj₁⟩
    · exact m₂.unique (h₂.le hold) h'
    · rcases h₂.new h' with hold' | ⟨hi₂, -⟩
      · have hi' := (hm hold').1
        omega
      · omega
  let m₃ : Pairing :=
    { rel := fun i j => m₁.rel i j ∨ m₂.rel i j
      unique := by
        rintro i j i' j' (h | h) (h' | h')
        · exact m₁.unique h h'
        · exact hcross h h'
        · exact (eq_comm.trans (hcross h' h)).trans eq_comm
        · exact m₂.unique h h' }
  refine ⟨m₃, ?_, .inl, .inr, id⟩
  have hleft := h₁.left_le
  have hright := h₂.right_le
  constructor
  case le => exact fun h => .inl (h₁.le h)
  case left_le => exact Nat.le_trans hleft h₂.left_le
  case right_le => exact Nat.le_trans hright h₁.right_le
  case below =>
    rintro i j (h | h)
    · exact ⟨Nat.lt_of_lt_of_le (h₁.below h).1 h₂.left_le, (h₁.below h).2⟩
    · exact ⟨(h₂.below h).1, Nat.lt_of_lt_of_le (h₂.below h).2 h₁.right_le⟩
  case new =>
    rintro i j (h | h)
    · exact (h₁.new h).imp_right fun ⟨hi, hj⟩ => ⟨hi, Nat.le_trans hright hj⟩
    · exact (h₂.new h).imp_right fun ⟨hi, hj⟩ => ⟨Nat.le_trans hleft hi, hj⟩
  case left =>
    intro i hle hlt
    by_cases hi : i < a₁
    · exact (h₁.left i hle hi).imp fun _ h => .inl h
    · exact (h₂.left i (Nat.le_of_not_lt hi) hlt).imp fun _ h => .inr h
  case right =>
    intro j hle hlt
    by_cases hj : j < b₁
    · exact (h₂.right j hle hj).imp fun _ h => .inr h
    · exact (h₁.right j (Nat.le_of_not_lt hj) hlt).imp fun _ h => .inl h

end onward

end Pairing

end DynamicObjects
