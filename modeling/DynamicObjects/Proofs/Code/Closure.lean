import DynamicObjects.Code

/-! # Closure cells along a run

    The cells of a closure are filled in once, while records are shared, copied in
    any state and nested in each other.  What a record shows is followed along a
    run of operations on an archive, which has every record there is.

    The argument:
    1. Each record has a place of its own for its cells (`CodeArchive.Sound`), so
       that to fill in one place shows at one record.
    2. A step leaves a record that shows cells as it is.  One that shows none takes
       the cells of an attempt on it, if it is a closure (`cells?_perform`).
    3. So along a run the first attempt on a record counts, and no other one.

    Main results:
    - `CodeArchive.Sound.perform`, `CodeRun.sound`: records do not get mixed up
    - `CodeRun.cells?_eq`: what a record shows after a run
    - `closure_cells_after_run` -/

namespace DynamicObjects

/-! ## Archives -/

namespace Constant

mutual

/-- The records in a constant, nested ones included. -/
def records : Constant → List Code
  | .code info cell constants => ⟨info, cell, constants⟩ :: recordsAll constants
  | _ => []

/-- The records in the constants of a list. -/
def recordsAll : List Constant → List Code
  | [] => []
  | a :: rest => records a ++ recordsAll rest

end

end Constant

/-- All **code records** that exist, in the order of their making, and their cells. -/
structure CodeArchive where
  records : List Code
  store : CellStore

/-- What is done with code records. -/
inductive CodeOperation where
  | build (info : CodeInfo) (constants : List Constant)
  | clone (c : Code)
  | populate (c : Code) (cells : List ClosureCell)

namespace CodeArchive

/-- No records. -/
def empty : CodeArchive := ⟨[], #[]⟩

/-- The cells that a record shows, if they have been filled in. -/
def cells? (s : CodeArchive) (c : Code) : Option (List ClosureCell) := c.cells? s.store

/-- One more record. -/
def add (s : CodeArchive) (made : Code × CellStore) : CodeArchive :=
  ⟨s.records ++ [made.1], made.2⟩

/-- What an operation leads to.  An attempt that is refused leads nowhere. -/
def perform (s : CodeArchive) : CodeOperation → CodeArchive
  | .build info constants => s.add (Code.build s.store info constants)
  | .clone c => s.add (Code.clone s.store c)
  | .populate c cells =>
    match Code.populate s.store c cells with
    | .ok store => { s with store := store }
    | .error _ => s

/-- An operation deals with records that exist, also as constants of others. -/
def Admits (s : CodeArchive) : CodeOperation → Prop
  | .build _ constants => Constant.recordsAll constants ⊆ s.records
  | .clone c => c ∈ s.records
  | .populate c _ => c ∈ s.records

/-- The records are kept apart by their places, only closures show cells, and the
    records that are nested in others exist as well. -/
structure Sound (s : CodeArchive) : Prop where
  index_lt : ∀ c ∈ s.records, c.cell.index < s.store.size
  cell_injective : ∀ c ∈ s.records, ∀ d ∈ s.records, c.cell = d.cell → c = d
  closure : ∀ c ∈ s.records, ∀ cells, s.cells? c = some cells → c.info.isClosure = true
  nested : ∀ c ∈ s.records, Constant.recordsAll c.constants ⊆ s.records

theorem sound_empty : empty.Sound := ⟨nofun, nofun, nofun, nofun⟩

section steps
variable {s : CodeArchive} {c d : Code} {cells : List ClosureCell}

/-! ### New records -/

/-- The place of a new record is behind those of all others. -/
theorem Sound.cell_ne (hs : s.Sound) (hc : c ∈ s.records) (shown : Option (List ClosureCell)) :
    c.cell ≠ (s.store.add shown).1 := by
  intro heq
  have hlt := hs.index_lt c hc
  rw [heq] at hlt
  exact Nat.lt_irrefl _ hlt

theorem cells?_add_old (hs : s.Sound) (hc : c ∈ s.records) (info : CodeInfo)
    (constants : List Constant) (shown : Option (List ClosureCell)) :
    (s.add (⟨info, (s.store.add shown).1, constants⟩, (s.store.add shown).2)).cells? c =
      s.cells? c :=
  CellStore.cells?_add_old (hs.index_lt c hc) shown

/-- **New records** keep what an archive says of the others, if they show cells only
    as closures and the records nested in them exist. -/
theorem Sound.add (hs : s.Sound) {info : CodeInfo} {constants : List Constant}
    {shown : Option (List ClosureCell)} (hclosure : shown.isSome = true → info.isClosure = true)
    (hnested : Constant.recordsAll constants ⊆ s.records) :
    (s.add (⟨info, (s.store.add shown).1, constants⟩, (s.store.add shown).2)).Sound := by
  -- Every record is an old one or the new one, whose place is beyond all others.
  constructor
  case index_lt =>
    intro c hc
    simp only [CodeArchive.add, CellStore.size_add]
    rcases List.mem_append.mp hc with hc | hc
    · exact Nat.lt_succ_of_lt (hs.index_lt c hc)
    · obtain rfl := List.mem_singleton.mp hc
      exact Nat.lt_succ_self _
  case cell_injective =>
    intro c hc d hd heq
    rcases List.mem_append.mp hc with hc | hc <;> rcases List.mem_append.mp hd with hd | hd
    · exact hs.cell_injective c hc d hd heq
    · obtain rfl := List.mem_singleton.mp hd
      exact absurd heq (hs.cell_ne hc shown)
    · obtain rfl := List.mem_singleton.mp hc
      exact absurd heq.symm (hs.cell_ne hd shown)
    · exact (List.mem_singleton.mp hc).trans (List.mem_singleton.mp hd).symm
  case closure =>
    intro c hc cells hcells
    rcases List.mem_append.mp hc with hc | hc
    · rw [cells?_add_old hs hc] at hcells
      exact hs.closure c hc cells hcells
    · obtain rfl := List.mem_singleton.mp hc
      have hshown : shown = some cells :=
        (CellStore.cells?_add_self s.store shown).symm.trans hcells
      exact hclosure (by rw [hshown]; rfl)
  case nested =>
    intro c hc
    rcases List.mem_append.mp hc with hc | hc
    · exact List.subset_append_of_subset_left _ (hs.nested c hc)
    · obtain rfl := List.mem_singleton.mp hc
      exact List.subset_append_of_subset_left _ hnested

/-! ### Attempts to fill in cells -/

theorem populate_eq_error_iff {f : ClosureFault} :
    Code.populate s.store c cells = .error f ↔
      c.info.isClosure = false ∧ f = .notAClosure c.info.name ∨
        c.info.isClosure = true ∧ (s.cells? c).isSome = true ∧
          f = .alreadyPopulated c.info.name := by
  unfold Code.populate CodeArchive.cells?
  cases c.info.isClosure <;> cases c.cells? s.store <;> simp [eq_comm]

/-- An attempt succeeds on a closure that shows no cells, and changes nothing else
    on any other record. -/
theorem perform_populate_cases (s : CodeArchive) (c : Code) (cells : List ClosureCell) :
    (c.info.isClosure = true ∧ s.cells? c = none ∧
        s.perform (.populate c cells) = { s with store := s.store.fill c.cell cells }) ∨
      ((c.info.isClosure = false ∨ (s.cells? c).isSome = true) ∧
        s.perform (.populate c cells) = s) := by
  cases hclosure : c.info.isClosure with
  | false => exact .inr ⟨.inl rfl, by simp [perform, Code.populate, hclosure]⟩
  | true =>
    cases hcells : s.cells? c with
    | none =>
      have hnone : c.cells? s.store = none := hcells
      exact .inl ⟨rfl, rfl, by simp [perform, Code.populate, hclosure, hnone]⟩
    | some shown =>
      have hsome : c.cells? s.store = some shown := hcells
      exact .inr ⟨.inr rfl, by simp [perform, Code.populate, hclosure, hsome]⟩

theorem cells?_populate_self (hs : s.Sound) (hc : c ∈ s.records) :
    (s.perform (.populate c cells)).cells? c =
      (s.cells? c).or (if c.info.isClosure then some cells else none) := by
  rcases perform_populate_cases s c cells with ⟨hclosure, hnone, hperform⟩ | ⟨hrefused, hperform⟩
  · rw [hperform, hnone, hclosure]
    exact CellStore.cells?_fill_self (hs.index_lt c hc) cells
  · rw [hperform]
    rcases hrefused with hclosure | hsome
    · simp [hclosure]
    · obtain ⟨shown, hshown⟩ := Option.isSome_iff_exists.mp hsome
      rw [hshown, Option.some_or]

/-- Whether it succeeds or not, an attempt shows at no other record. -/
theorem cells?_populate_ne (hs : s.Sound) (hc : c ∈ s.records) (hd : d ∈ s.records)
    (hne : d ≠ c) : (s.perform (.populate c cells)).cells? d = s.cells? d := by
  rcases perform_populate_cases s c cells with ⟨-, -, hperform⟩ | ⟨-, hperform⟩
  · have hcell : d.cell ≠ c.cell := fun heq => hne (hs.cell_injective d hd c hc heq)
    rw [hperform]
    exact CellStore.cells?_fill_ne s.store hcell cells
  · rw [hperform]

theorem records_populate (s : CodeArchive) (c : Code) (cells : List ClosureCell) :
    (s.perform (.populate c cells)).records = s.records := by
  rcases perform_populate_cases s c cells with ⟨-, -, hperform⟩ | ⟨-, hperform⟩ <;> rw [hperform]

theorem Sound.populate (hs : s.Sound) (hc : c ∈ s.records) :
    (s.perform (.populate c cells)).Sound := by
  rcases perform_populate_cases s c cells with ⟨hclosure, -, hperform⟩ | ⟨-, hperform⟩
  · rw [hperform]
    constructor
    case index_lt =>
      intro d hd
      rw [CellStore.size_fill]
      exact hs.index_lt d hd
    case cell_injective => exact hs.cell_injective
    case closure =>
      intro d hd shown hshown
      -- Nothing new shows but at the record itself, which is a closure.
      by_cases hcell : d.cell = c.cell
      · rw [hs.cell_injective d hd c hc hcell]
        exact hclosure
      · apply hs.closure d hd shown
        rw [← hshown]
        exact (CellStore.cells?_fill_ne s.store hcell cells).symm
    case nested => exact hs.nested
  · rw [hperform]
    exact hs

/-! ### Any operation -/

/-- **Step**: records do not get mixed up. -/
theorem Sound.perform (hs : s.Sound) {op : CodeOperation} (hop : s.Admits op) :
    (s.perform op).Sound := by
  cases op with
  | build info constants => exact hs.add nofun hop
  | clone c =>
    refine hs.add (fun hsome => ?_) (hs.nested c hop)
    obtain ⟨shown, hshown⟩ := Option.isSome_iff_exists.mp hsome
    exact hs.closure c hop shown hshown
  | populate c cells => exact hs.populate hop

/-- Records stay in the archive, and with them all that they say of their units. -/
theorem records_prefix (s : CodeArchive) (op : CodeOperation) :
    s.records <+: (s.perform op).records := by
  cases op with
  | build info constants => exact List.prefix_append _ _
  | clone c => exact List.prefix_append _ _
  | populate c cells => exact ⟨[], by rw [List.append_nil, records_populate]⟩

end steps

end CodeArchive

/-- The cells that an operation attempts to fill in for a record. -/
def CodeOperation.cellsFor? (c : Code) : CodeOperation → Option (List ClosureCell)
  | .populate d cells => if d.cell = c.cell then some cells else none
  | _ => none

/-- **Step**: a record that shows cells goes on to show them; a closure that shows
    none takes those of an attempt on it. -/
theorem CodeArchive.cells?_perform {s : CodeArchive} (hs : s.Sound) {op : CodeOperation}
    (hop : s.Admits op) {c : Code} (hc : c ∈ s.records) :
    (s.perform op).cells? c =
      (s.cells? c).or (if c.info.isClosure then op.cellsFor? c else none) := by
  have hno_attempt : (s.cells? c).or (if c.info.isClosure then none else none) = s.cells? c := by
    rw [ite_self, Option.or_none]
  cases op with
  | build info constants => exact (cells?_add_old hs hc info constants none).trans hno_attempt.symm
  | clone d =>
    exact (cells?_add_old hs hc d.info d.constants (s.cells? d)).trans hno_attempt.symm
  | populate d cells =>
    by_cases hcell : d.cell = c.cell
    · obtain rfl := hs.cell_injective d hop c hc hcell
      rw [CodeOperation.cellsFor?, if_pos hcell]
      exact cells?_populate_self hs hc
    · rw [CodeOperation.cellsFor?, if_neg hcell, hno_attempt]
      exact cells?_populate_ne hs hop hc fun heq => hcell (congrArg Code.cell heq).symm

/-! ## Runs -/

/-- A **run** of operations from one archive to another. -/
inductive CodeRun : CodeArchive → List CodeOperation → CodeArchive → Prop where
  | nil {s : CodeArchive} : CodeRun s [] s
  | cons {s s' : CodeArchive} {op : CodeOperation} {ops : List CodeOperation}
      (hop : s.Admits op) (h : CodeRun (s.perform op) ops s') : CodeRun s (op :: ops) s'

namespace CodeRun

variable {s s' : CodeArchive} {ops : List CodeOperation}

theorem sound (h : CodeRun s ops s') (hs : s.Sound) : s'.Sound := by
  induction h with
  | nil => exact hs
  | cons hop _ ih => exact ih (hs.perform hop)

theorem records_prefix (h : CodeRun s ops s') : s.records <+: s'.records := by
  induction h with
  | nil => exact List.prefix_refl _
  | @cons s s' op ops hop _ ih => exact (s.records_prefix op).trans ih

/-- **A record** shows what it showed, or else the cells of the first attempt on it
    if it is a closure. -/
theorem cells?_eq (h : CodeRun s ops s') (hs : s.Sound) {c : Code} (hc : c ∈ s.records) :
    s'.cells? c =
      (s.cells? c).or (if c.info.isClosure then ops.findSome? (·.cellsFor? c) else none) := by
  induction h with
  | nil => rw [List.findSome?_nil, ite_self, Option.or_none]
  | @cons s s' op ops hop _ ih =>
    -- An attempt on the record comes before all others of the run, if this is one.
    rw [ih (hs.perform hop) ((s.records_prefix op).subset hc), CodeArchive.cells?_perform hs hop hc,
      Option.or_assoc, List.findSome?_cons]
    cases c.info.isClosure with
    | false => rfl
    | true => cases op.cellsFor? c <;> rfl

end CodeRun

/-! ## The life of a record -/

/-- What holds of the records of an archive, now and **along a run** to another one. -/
structure CodeArchive.ShowsOnce (s : CodeArchive) (ops : List CodeOperation)
    (s' : CodeArchive) : Prop where
  /-- No record goes away or says anything else of its unit, and those that are nested
      in one are in the archive as well. -/
  kept : s.records <+: s'.records ∧
    ∀ c ∈ s.records, Constant.recordsAll c.constants ⊆ s.records
  /-- A record goes on to show the cells that it shows.  One that shows none comes to
      show the cells of the first attempt on it, be they none at all, if it is a
      closure; and it stays as it is otherwise. -/
  cells : ∀ c ∈ s.records, s'.cells? c =
    (s.cells? c).or (if c.info.isClosure then ops.findSome? (·.cellsFor? c) else none)
  /-- Only closures show cells. -/
  closure : ∀ c ∈ s.records, (s.cells? c).isSome = true → c.info.isClosure = true
  /-- A new record shows no cells. -/
  built : ∀ (info : CodeInfo) (constants : List Constant), s.Admits (.build info constants) →
    ∃ c, (s.perform (.build info constants)).records = s.records ++ [c] ∧ c ∉ s.records ∧
      c.info = info ∧ c.constants = constants ∧
      (s.perform (.build info constants)).cells? c = none
  /-- A copy of a record is another one, which shows what the record shows. -/
  cloned : ∀ c ∈ s.records,
    ∃ d, (s.perform (.clone c)).records = s.records ++ [d] ∧ d ∉ s.records ∧
      d.info = c.info ∧ d.constants = c.constants ∧
      (s.perform (.clone c)).cells? d = s.cells? c
  /-- An attempt on a closure that shows no cells succeeds. -/
  accepted : ∀ c ∈ s.records, ∀ cells,
    (∃ store, Code.populate s.store c cells = .ok store) ↔
      c.info.isClosure = true ∧ s.cells? c = none
  /-- All others are refused, records that are no closures for that reason. -/
  refused : ∀ c ∈ s.records, ∀ cells f, Code.populate s.store c cells = .error f →
    f = (if c.info.isClosure then .alreadyPopulated c.info.name else .notAClosure c.info.name) ∧
      s.perform (.populate c cells) = s
  /-- An attempt on a record shows at no other one, its copies and what it is a copy
      of included. -/
  apart : ∀ c ∈ s.records, ∀ d ∈ s.records, d ≠ c → ∀ cells,
    (s.perform (.populate c cells)).cells? d = s.cells? d

/-- **Closure cells** are filled in once, whatever else is done with the records that
    exist in between. -/
theorem closure_cells_after_run {before ops : List CodeOperation} {s s' : CodeArchive}
    (hbefore : CodeRun .empty before s) (h : CodeRun s ops s') : s.ShowsOnce ops s' := by
  have hs := hbefore.sound CodeArchive.sound_empty
  -- The place of a new record is beyond those of all others.
  have hnew : ∀ (info : CodeInfo) (constants : List Constant) (shown : Option (List ClosureCell)),
      (⟨info, (s.store.add shown).1, constants⟩ : Code) ∉ s.records :=
    fun info constants shown hmem => hs.cell_ne hmem shown rfl
  constructor
  case kept => exact ⟨h.records_prefix, hs.nested⟩
  case cells => exact fun c hc => h.cells?_eq hs hc
  case closure =>
    intro c hc hsome
    obtain ⟨cells, hcells⟩ := Option.isSome_iff_exists.mp hsome
    exact hs.closure c hc cells hcells
  case built =>
    intro info constants _
    exact ⟨_, rfl, hnew info constants none, rfl, rfl, CellStore.cells?_add_self s.store none⟩
  case cloned =>
    intro c _
    exact ⟨_, rfl, hnew c.info c.constants (s.cells? c), rfl, rfl,
      CellStore.cells?_add_self s.store (s.cells? c)⟩
  case accepted =>
    intro c _ cells
    unfold Code.populate CodeArchive.cells?
    cases c.info.isClosure <;> cases c.cells? s.store <;> simp
  case refused =>
    intro c _ cells f hf
    refine ⟨?_, by simp only [CodeArchive.perform, hf]⟩
    rcases CodeArchive.populate_eq_error_iff.mp hf with ⟨hclosure, rfl⟩ | ⟨hclosure, -, rfl⟩
    · rw [hclosure]
      rfl
    · rw [hclosure]
      rfl
  case apart => exact fun c hc d hd hne cells => CodeArchive.cells?_populate_ne hs hc hd hne

/-- A closure, as the first record of all. -/
def innerClosure : Code :=
  ⟨{ CodeInfo.named "inner" "main.ail" with isClosure := true }, ⟨0⟩, []⟩

/-- Its copy, made before it shows any cells. -/
def innerCopy : Code := { innerClosure with cell := ⟨1⟩ }

/-- The record comes to show no cells at all and keeps to that, while the copy takes
    cells of its own. -/
theorem closure_cells_after_run_copy :
    ∃ s s', CodeRun .empty [.build innerClosure.info [], .clone innerClosure] s ∧
      CodeRun s [.populate innerClosure [], .populate innerClosure [⟨"x", 1⟩],
        .populate innerCopy [⟨"y", 2⟩]] s' ∧
      s'.cells? innerClosure = some [] ∧ s'.cells? innerCopy = some [⟨"y", 2⟩] := by
  have hbefore : CodeRun .empty [.build innerClosure.info [], .clone innerClosure]
      ⟨[innerClosure, innerCopy], #[none, none]⟩ :=
    .cons (List.nil_subset _) (.cons List.mem_cons_self .nil)
  have hrun : CodeRun ⟨[innerClosure, innerCopy], #[none, none]⟩
      [.populate innerClosure [], .populate innerClosure [⟨"x", 1⟩],
        .populate innerCopy [⟨"y", 2⟩]]
      ⟨[innerClosure, innerCopy], #[some [], some [⟨"y", 2⟩]]⟩ :=
    .cons List.mem_cons_self
      (.cons List.mem_cons_self (.cons (List.mem_cons_of_mem _ List.mem_cons_self) .nil))
  have hlaws := closure_cells_after_run hbefore hrun
  exact ⟨_, _, hbefore, hrun, hlaws.cells innerClosure List.mem_cons_self,
    hlaws.cells innerCopy (List.mem_cons_of_mem _ List.mem_cons_self)⟩

end DynamicObjects
