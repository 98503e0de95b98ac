import DynamicObjects.CommandLine
import DynamicObjects.Host.Stock
import DynamicObjects.Proofs.Rendering.Legible
import Mathlib.Data.String.Basic

/-! # The command line

    A command ends with status 0 or 1, and with 1 exactly if it has written to the
    standard error.  What the status is can be told from the arguments and from the
    attributes that a path of names leads along.

    The argument:
    1. A path is split at its points, into names without one.
    2. A module that has just been loaded is legible, and stays so while attributes
       are read; so every value on the way has a text, and only a name that is not
       there ends a walk early.
    3. A fault is pushed on the stack of the interpreter, whose status it decides.

    Main results:
    - `splitOn_point_iff`: what a path is split into
    - `CommandLine.follow_eq_done_iff`: walks along names
    - `CommandLine.run_answers`: what a run ends with and writes
    - `CommandLine.start_answers`: the whole program, by its argument vector -/

namespace DynamicObjects

/-! ## Paths -/

section paths
open String

/-- Between two points of a text: what has been passed since the last one is `m`. -/
theorem splitOnAux_point (l m r : List Char) (acc : List String) :
    splitOnAux (ofList (l ++ m ++ r)) "." ⟨utf8Len l⟩ ⟨utf8Len l + utf8Len m⟩ 0 acc =
      acc.reverse ++ (List.splitOnPPrepend (· == '.') r m.reverse).map ofList := by
  have hnextPoint : Pos.Raw.next "." 0 = ⟨1⟩ := by decide
  have hpoint : Pos.Raw.get "." 0 = '.' ∧ (⟨1⟩ : Pos.Raw).atEnd "." = true := by decide
  induction r generalizing l m acc with
  | nil =>
    have hend : (⟨utf8Len l + utf8Len m⟩ : Pos.Raw).atEnd (ofList (l ++ m)) = true := by
      simp [-ofList_append]
    have hextract := extract_of_valid l m []
    rw [List.append_nil] at hextract ⊢
    rw [splitOnAux, if_pos hend, hextract]
    simp
  | cons c r ih =>
    have hend : (⟨utf8Len l + utf8Len m⟩ : Pos.Raw).atEnd (ofList (l ++ m ++ c :: r)) = false := by
      rw [← Bool.not_eq_true]
      intro h
      have hnil := (atEnd_of_valid (l ++ m) (c :: r)).mp (by simpa [-ofList_append] using h)
      exact List.cons_ne_nil _ _ hnil
    have hget : (⟨utf8Len l + utf8Len m⟩ : Pos.Raw).get (ofList (l ++ m ++ c :: r)) = c := by
      simpa [-ofList_append] using get_of_valid (l ++ m) (c :: r)
    have hnext : (⟨utf8Len l + utf8Len m⟩ : Pos.Raw).next (ofList (l ++ m ++ c :: r)) =
        ⟨utf8Len l + utf8Len m + c.utf8Size⟩ := by
      simpa [-ofList_append] using next_of_valid (l ++ m) c r
    have hstay : (⟨utf8Len l + utf8Len m⟩ : Pos.Raw).unoffsetBy 0 = ⟨utf8Len l + utf8Len m⟩ := rfl
    rw [splitOnAux, hend, if_neg Bool.false_ne_true, hget, hpoint.1, hnext, hnextPoint, hstay,
      hnext]
    by_cases hc : c = '.'
    · -- What has been passed is a part, and the next one begins behind the point.
      subst hc
      have hback : (⟨utf8Len l + utf8Len m + Char.utf8Size '.'⟩ : Pos.Raw).unoffsetBy ⟨1⟩ =
          ⟨utf8Len l + utf8Len m⟩ := by
        show (⟨utf8Len l + utf8Len m + 1 - 1⟩ : Pos.Raw) = _
        rw [Nat.add_sub_cancel]
      have hrest := ih (l ++ m ++ ['.']) [] (ofList m :: acc)
      rw [if_pos (by decide)]
      simp only [hpoint.2, if_true, hback, extract_of_valid]
      simpa [List.splitOnPPrepend_cons_eq_if, Nat.add_assoc] using hrest
    · have hrest := ih l (m ++ [c]) acc
      rw [if_neg (by simpa using hc)]
      simpa [List.splitOnPPrepend_cons_eq_if, hc, Nat.add_assoc] using hrest

theorem splitOn_point (path : String) :
    path.splitOn "." = (path.toList.splitOn '.').map ofList := by
  have haux := splitOnAux_point [] [] path.toList []
  rw [splitOn, if_neg (by decide), List.splitOn_eq_splitOnP]
  simpa using haux

theorem not_mem_of_mem_splitOn {path part : List Char} (hpart : part ∈ path.splitOn '.') :
    '.' ∉ part := by
  induction path generalizing part with
  | nil => simp_all
  | cons c rest ih =>
    rw [List.splitOn_cons_eq_if_modifyHead] at hpart
    by_cases hc : c = '.'
    · rw [if_pos (by simpa using hc), List.mem_cons] at hpart
      rcases hpart with rfl | hpart
      · exact List.not_mem_nil
      · exact ih hpart
    · -- The first part goes on with a character that is no point.
      rw [if_neg (by simpa using hc)] at hpart
      cases hrest : rest.splitOn '.' with
      | nil => exact absurd hrest (List.splitOn_ne_nil '.' rest)
      | cons first others =>
        rw [hrest] at hpart ih
        rw [List.modifyHead_cons, List.mem_cons] at hpart
        rcases hpart with rfl | hpart
        · simpa [Ne.symm hc] using ih List.mem_cons_self
        · exact ih (List.mem_cons_of_mem _ hpart)

/-- **A path** is split into names without a point that make it up. -/
theorem splitOn_point_iff {path : String} {names : List String} :
    path.splitOn "." = names ↔
      names ≠ [] ∧ (∀ name ∈ names, '.' ∉ name.toList) ∧ path = ".".intercalate names := by
  rw [splitOn_point]
  constructor
  · rintro rfl
    refine ⟨by simp [List.splitOn_ne_nil], ?_, ?_⟩
    · rintro name hname
      obtain ⟨part, hpart, rfl⟩ := List.mem_map.mp hname
      rw [toList_ofList]
      exact not_mem_of_mem_splitOn hpart
    · have hparts :
          ((path.toList.splitOn '.').map ofList).map toList = path.toList.splitOn '.' := by simp
      refine toList_inj.mp ?_
      rw [toList_intercalate, hparts]
      exact (List.intercalate_splitOn '.').symm
  · rintro ⟨hne, hnames, rfl⟩
    -- Behind a join with points, a split at them finds the parts again.
    have hpoints : ∀ part ∈ names.map toList, '.' ∉ part := by simpa using hnames
    have hsplit := List.splitOn_intercalate '.' hpoints (by simpa using hne)
    have hlist : (".".intercalate names).toList = ['.'].intercalate (names.map toList) :=
      toList_intercalate
    rw [hlist, hsplit, List.map_map]
    simp

end paths

namespace CommandLine

/-! ## Walks -/

/-- **Names lead** from a value of a world to another one: each of them is an
    attribute of the object that the value before it is, or becomes. -/
inductive Leads (host : Host) : Value → World → List String → Value → World → Prop
  | here (v : Value) (w : World) : Leads host v w [] v w
  | step {v u t : Value} {w w₁ w₂ : World} {name : String} {names : List String}
      (hattr : host.getAttr (w.toObject v).1 name (w.toObject v).2 = .done u w₁)
      (hrest : Leads host u w₁ names t w₂) : Leads host v w (name :: names) t w₂

variable {host : Host} {w : World}

/-- To follow names is to come to where they lead. -/
theorem follow_eq_done_iff {v u : Value} {names : List String} {w₁ : World} :
    follow host v names w = .done u w₁ ↔ Leads host v w names u w₁ := by
  induction names generalizing v w with
  | nil =>
    constructor
    · intro h
      obtain ⟨rfl, rfl⟩ : v = u ∧ w = w₁ := by simpa [follow] using h
      exact .here v w
    · rintro ⟨⟩
      rfl
  | cons name names ih =>
    constructor
    · intro h
      rw [follow, Run.bind_apply, Run.step_apply] at h
      obtain ⟨t, w₂, hattr, hrest⟩ := Run.bind_eq_done_iff.mp h
      exact .step hattr (ih.mp hrest)
    · rintro (_ | ⟨hattr, hrest⟩)
      rw [follow, Run.bind_apply, Run.step_apply]
      exact Run.bind_eq_done_iff.mpr ⟨_, _, hattr, ih.mpr hrest⟩

/-- **A walk** through a legible world comes to a value without lists, or fails. -/
theorem follow_legible (host : Host) {v : Value} (h : w.Legible) (hv : v.ListFree)
    (names : List String) :
    (∃ u w₁, follow host v names w = .done u w₁ ∧ w₁.Legible ∧ u.ListFree) ∨
      ∃ f w₁, follow host v names w = .raised f w₁ := by
  induction names generalizing v w with
  | nil => exact .inl ⟨v, w, rfl, h, hv⟩
  | cons name names ih =>
    have hobject := h.toObject hv
    simp only [follow, Run.bind_apply, Run.step_apply]
    rcases host.getAttr_legible hobject (w.toObject v).1 name with ⟨u, hattr, hu⟩ | ⟨f, hattr⟩
    · rw [hattr]
      exact ih hobject hu
    · rw [hattr]
      exact .inr ⟨f, _, rfl⟩

/-! ## Printing -/

namespace Printing
variable {α β : Type} {r : Run α} {next : α → Printing β} {w₁ : World}

theorem lift_bind_of_done {a : α} (h : r w = .done a w₁) :
    ((liftM r : Printing α) >>= next) w = next a w₁ := by
  change Printing.bind (fun w => ([], r w)) next w = next a w₁
  simp only [Printing.bind, h, List.nil_append]

/-- A fault leaves what has been printed before. -/
theorem lift_bind_of_raised {f : Fault} (h : r w = .raised f w₁) :
    ((liftM r : Printing α) >>= next) w = ([], .raised f w₁) := by
  change Printing.bind (fun w => ([], r w)) next w = ([], .raised f w₁)
  simp only [Printing.bind, h]

theorem print_bind (lines : List String) (next : Unit → Printing β) (w : World) :
    (print lines >>= next) w = (lines ++ (next () w).1, (next () w).2) := rfl

end Printing

/-! ## Listings -/

/-- A name that is bound in a module can be read. -/
theorem getAttr_moduleAttributes (host : Host) {o : ObjectId} {name : String} (h : w.Legible)
    (hstore : (w.typeOf o).slots .getAttr = some (.getAttr .moduleNames))
    (hname : name ∈ w.moduleAttributes o) :
    ∃ v, host.getAttr o name w = .done v w ∧ v.ListFree := by
  rcases host.getAttr_legible h o name with hread | ⟨f, hraised⟩
  · exact hread
  · -- Marked names are read among the properties, others in the namespace; none fails.
    exfalso
    cases hmarked : Host.markedProperty? name with
    | some property => simp [Host.getAttr, hmarked] at hraised
    | none =>
      rw [host.getAttr_apply hstore hmarked] at hraised
      rw [World.moduleAttributes] at hname
      cases hentries : w.namespace? o with
      | none => simp [hentries] at hname
      | some entries =>
        have hmem : name ∈ Bindings.names entries := by
          simpa [hentries, Bindings.sortedNames] using hname
        cases hget : Bindings.get? name entries with
        | none => exact absurd hmem (Bindings.get?_eq_none_iff.mp hget)
        | some v =>
          have hbound : AttributeStore.moduleNames.get w o name = .ok v := by
            rw [AttributeStore.get, hentries, Option.bind_some, hget]
          rw [hbound] at hraised
          cases hraised

/-- **The attributes of a module** of a legible world can be listed. -/
theorem showAttributes_legible (host : Host) {o : ObjectId} {names : List String}
    (h : w.Legible) (ho : o.index < w.heap.size)
    (hstore : (w.typeOf o).slots .getAttr = some (.getAttr .moduleNames))
    (hnames : names ⊆ w.moduleAttributes o) :
    ∃ lines w₁, showAttributes host o names w = (lines, .done () w₁) := by
  induction names generalizing w with
  | nil => exact ⟨[], w, rfl⟩
  | cons name rest ih =>
    obtain ⟨v, hread, hv⟩ := getAttr_moduleAttributes host h hstore
      (hnames List.mem_cons_self)
    obtain ⟨text, w₁, htext, hgrows, hlegible⟩ := host.natives.render_legible h hv .representation
    -- To show one attribute leaves the module as it is.
    have hobject := hgrows.object_eq ho
    obtain ⟨lines, w₂, hlines⟩ := ih hlegible (Nat.lt_of_lt_of_le ho hgrows.size_le)
      (by rw [World.typeOf, hobject]; exact hstore)
      (by
        rw [World.moduleAttributes, World.namespace?, hgrows.property?_eq ho]
        exact fun name h => hnames (List.mem_cons_of_mem _ h))
    have hrepresent : host.represent v w = .done text w₁ := htext
    refine ⟨("  " ++ name ++ " = " ++ text) :: lines, w₂, ?_⟩
    rw [showAttributes, Printing.lift_bind_of_done hread, Printing.lift_bind_of_done hrepresent,
      Printing.print_bind, hlines]
    rfl

/-! ## Arguments -/

/-- What arguments **ask for**. -/
inductive Asks : List String → Command → Prop
  | nothing : Asks [] .help
  | modules (rest : List String) : Asks ("modules" :: rest) .modules
  | help {first : String} (hfirst : first ∈ ["help", "--help", "-h"]) (rest : List String) :
      Asks (first :: rest) .help
  | show (module : String) : Asks ["show", module] (.show module)
  | get (module path : String) : Asks ["get", module, path] (.get module path)

theorem parse_eq_ok_iff {args : List String} {command : Command} :
    parse args = .ok command ↔ Asks args command := by
  constructor
  · intro h
    fun_cases parse args
    case case1 =>
      obtain rfl := Except.ok.inj h
      exact .nothing
    case case2 rest =>
      obtain rfl := Except.ok.inj h
      exact .modules rest
    case case3 module hmodules =>
      obtain rfl := Except.ok.inj h
      exact .show module
    case case5 module path hmodules hshow =>
      obtain rfl := Except.ok.inj h
      exact .get module path
    case case7 first rest hmodules hshow hget hhelp =>
      obtain rfl : .help = command := by simpa [parse, hmodules, hshow, hget, hhelp] using h
      exact .help (by simpa using hhelp) rest
    -- What is left are the wrong arguments.
    all_goals simp_all [parse]
  · intro h
    cases h with
    | help hfirst rest =>
      simp only [List.mem_cons, List.not_mem_nil, or_false] at hfirst
      rcases hfirst with rfl | rfl | rfl <;> rfl
    | _ => rfl

/-! ## Commands -/

/-- The names in a path **lead** from a builtin module to a value of a world. -/
def Reaches (host : Host) (module path : String) (v : Value) (w : World) : Prop :=
  ∃ o w₀ names, Catalogue.load host.natives module World.initial = .done o w₀ ∧
    (names ≠ [] ∧ (∀ name ∈ names, '.' ∉ name.toList) ∧ path = ".".intercalate names) ∧
    Leads host (.object o) w₀ names v w

/-- A command **succeeds** if there is what it asks for. -/
def Command.Succeeds (host : Host) : Command → Prop
  | .help | .modules => True
  | .show module => module ∈ Catalogue.names
  | .get module path => module ∈ Catalogue.names ∧ ∃ v w, Reaches host module path v w

/-- A builtin module can be loaded into a legible world, another one cannot. -/
theorem load_initial (host : Host) (module : String) :
    (module ∈ Catalogue.names ∧ ∃ o w, w.Legible ∧ o.index < w.heap.size ∧
      (w.typeOf o).slots .getAttr = some (.getAttr .moduleNames) ∧
      Catalogue.load host.natives module World.initial = .done o w) ∨
    (module ∉ Catalogue.names ∧ Catalogue.load host.natives module World.initial =
      .raised (.moduleNotFound module) World.initial) := by
  have hload := Catalogue.load_eq host.natives World.initial module
  by_cases hmodule : module = "_nezha"
  · rw [if_pos hmodule] at hload
    have hmem : module ∈ Catalogue.names := List.mem_singleton.mpr hmodule
    refine .inl ⟨hmem, ⟨(Catalogue.nezhaMade World.initial).heap.size⟩, _,
      Catalogue.legible_loaded World.legible_initial, World.size_lt_moduleMade _ _, ?_, hload⟩
    rw [Catalogue.loaded, World.typeOf_moduleMade]
    rfl
  · rw [if_neg hmodule] at hload
    exact .inr ⟨fun hmem => hmodule (List.mem_singleton.mp hmem), hload⟩

/-- **A builtin module** can be shown, another one cannot. -/
theorem showModule_cases (host : Host) (module : String) :
    (module ∈ Catalogue.names ∧
      ∃ lines w, showModule host module World.initial = (lines, .done () w)) ∨
    (module ∉ Catalogue.names ∧
      ∃ f w, showModule host module World.initial = ([], .raised f w)) := by
  rcases load_initial host module with ⟨hmodule, o, w, hw, ho, hstore, hload⟩ | ⟨hmodule, hload⟩
  · refine .inl ⟨hmodule, ?_⟩
    obtain ⟨title, w₁, htitle, hgrows, hlegible⟩ :=
      host.natives.render_legible hw (Value.listFree_object o) .plain
    -- To show the title leaves the module as it is.
    have htype : w₁.typeOf o = w.typeOf o := by
      rw [World.typeOf, World.typeOf, hgrows.object_eq ho]
    obtain ⟨lines, w₂, hlines⟩ := showAttributes_legible host hlegible
      (Nat.lt_of_lt_of_le ho hgrows.size_le) (htype ▸ hstore) (List.Subset.refl _)
    have hstringify : host.stringify (.object o) w = .done title w₁ := htitle
    refine ⟨title :: lines, w₂, ?_⟩
    rw [showModule, Printing.lift_bind_of_done hload, Printing.lift_bind_of_done hstringify,
      Printing.print_bind, Printing.lift_bind_of_done (Run.read_apply _ _), hlines]
    rfl
  · exact .inr ⟨hmodule, .moduleNotFound module, World.initial,
      Printing.lift_bind_of_raised hload⟩

/-- **A path that leads somewhere** has the text printed of what it leads to. -/
theorem getPath_of_reaches {module path : String} {v : Value} (h : Reaches host module path v w) :
    ∃ text w₁, host.stringify v w = .done text w₁ ∧
      getPath host module path World.initial = ([text], .done () w₁) := by
  obtain ⟨o, w₀, names, hload, hpath, hleads⟩ := h
  have hfollow := follow_eq_done_iff.mpr hleads
  -- There is a module behind the path, since a load of any other one fails.
  have hlegible : w.Legible ∧ v.ListFree := by
    rcases load_initial host module with ⟨-, o', w', hw', -, -, hload'⟩ | ⟨-, hload'⟩
    · obtain ⟨rfl, rfl⟩ := Outcome.done.inj (hload'.symm.trans hload)
      rcases follow_legible host hw' (Value.listFree_object o') names with
        ⟨u, w₁, hwalk, hlegible⟩ | ⟨f, w₁, hwalk⟩
      · obtain ⟨rfl, rfl⟩ := Outcome.done.inj (hfollow.symm.trans hwalk)
        exact hlegible
      · cases hfollow.symm.trans hwalk
    · cases hload'.symm.trans hload
  obtain ⟨text, w₁, htext, -⟩ := host.natives.render_legible hlegible.1 hlegible.2 .plain
  have hstringify : host.stringify v w = .done text w₁ := htext
  refine ⟨text, w₁, hstringify, ?_⟩
  rw [getPath, Printing.lift_bind_of_done hload, splitOn_point_iff.mpr hpath,
    Printing.lift_bind_of_done hfollow, Printing.lift_bind_of_done hstringify]
  rfl

/-- **A path** that leads nowhere is a fault. -/
theorem getPath_cases (host : Host) (module path : String) :
    (∃ v w, Reaches host module path v w) ∨
      ∃ f w, getPath host module path World.initial = ([], .raised f w) := by
  rcases load_initial host module with ⟨-, o, w, hw, -, -, hload⟩ | ⟨-, hload⟩
  · rcases follow_legible host hw (Value.listFree_object o) (path.splitOn ".") with
      ⟨v, w₁, hfollow, -⟩ | ⟨f, w₁, hfollow⟩
    · exact .inl ⟨v, w₁, o, w, _, hload, splitOn_point_iff.mp rfl, follow_eq_done_iff.mp hfollow⟩
    · refine .inr ⟨f, w₁, ?_⟩
      rw [getPath, Printing.lift_bind_of_done hload, Printing.lift_bind_of_raised hfollow]
  · exact .inr ⟨.moduleNotFound module, World.initial, Printing.lift_bind_of_raised hload⟩

/-- Only a builtin module leads to something. -/
theorem Reaches.mem_names {module path : String} {v : Value} (h : Reaches host module path v w) :
    module ∈ Catalogue.names := by
  obtain ⟨o, w₀, names, hload, -⟩ := h
  rcases load_initial host module with ⟨hmodule, -⟩ | ⟨-, hload'⟩
  · exact hmodule
  · cases hload'.symm.trans hload

/-- **Commands** end: they print lines if they succeed, and otherwise they fail before
    they have printed any. -/
theorem perform_cases (host : Host) (command : Command) :
    (command.Succeeds host ∧
      ∃ lines w, command.perform host World.initial = (lines, .done () w)) ∨
    (¬ command.Succeeds host ∧
      ∃ f w, command.perform host World.initial = ([], .raised f w)) := by
  cases command with
  | help => exact .inl ⟨trivial, _, _, rfl⟩
  | modules => exact .inl ⟨trivial, _, _, rfl⟩
  | «show» module => exact showModule_cases host module
  | get module path =>
    rcases getPath_cases host module path with ⟨v, w, hreaches⟩ | ⟨f, w₁, hraised⟩
    · obtain ⟨text, w₁, -, hline⟩ := getPath_of_reaches hreaches
      exact .inl ⟨⟨hreaches.mem_names, v, w, hreaches⟩, _, _, hline⟩
    · refine .inr ⟨?_, f, w₁, hraised⟩
      rintro ⟨-, v, w, hreaches⟩
      obtain ⟨text, w₂, -, hline⟩ := getPath_of_reaches hreaches
      cases hline.symm.trans hraised

/-! ## The whole program -/

@[simp] theorem unlines_singleton (line : String) : unlines [line] = line ++ "\n" := by
  simp [unlines]

theorem run_eq_of_done {args : List String} {command : Command} {lines : List String}
    (hasks : Asks args command)
    (hlines : command.perform host World.initial = (lines, .done () w)) :
    run host args = ⟨0, unlines lines, ""⟩ := by
  simp only [run, parse_eq_ok_iff.mpr hasks, hlines]
  rfl

theorem run_eq_of_raised {args : List String} {command : Command} {f : Fault}
    (hasks : Asks args command)
    (hraised : command.perform host World.initial = ([], .raised f w)) :
    run host args = ⟨1, "", mainState.report f ++ "\n"⟩ := by
  simp only [run, parse_eq_ok_iff.mpr hasks, hraised, unlines_singleton]
  rfl

/-- **Wrong arguments** are reported along with the help text. -/
theorem run_eq_of_wrong (host : Host) {args : List String} (hwrong : ∀ command, ¬ Asks args command) :
    ∃ message, run host args = ⟨1, unlines helpLines, message ++ "\n"⟩ := by
  cases hparse : parse args with
  | ok command => exact absurd (parse_eq_ok_iff.mp hparse) (hwrong command)
  | error e => exact ⟨"error: " ++ e.message, by simp only [run, hparse, unlines_singleton]⟩

/-- **What a run of the program does** when it ends with some output: what arguments
    ask for is done, if it can be, with status 0 and nothing on the standard error;
    otherwise there is something on it, and the status is 1.  A path that leads to a
    value has its text printed, on one line. -/
structure Output.Answers (host : Host) (args : List String) (output : Output) : Prop where
  ends : ∀ command, Asks args command → (command.perform host World.initial).2 ≠ .diverged
  status_eq : output.status = 0 ∨ output.status = 1
  status_eq_one_iff : output.status = 1 ↔ output.stderr ≠ ""
  status_eq_zero_iff : output.status = 0 ↔ ∃ command, Asks args command ∧ command.Succeeds host
  stdout_of_failed : ∀ module path, args = ["get", module, path] →
    output.status = 1 → output.stdout = ""
  stdout_of_reaches : ∀ module path, args = ["get", module, path] →
    ∀ v w, Reaches host module path v w →
      ∃ text w₁, host.stringify v w = .done text w₁ ∧ output.stdout = text ++ "\n"

/-- **Runs of the program** by arguments that are texts. -/
theorem run_answers (host : Host) (args : List String) : (run host args).Answers host args := by
  by_cases hasks : ∃ command, Asks args command
  · obtain ⟨command, hasks⟩ := hasks
    have hunique : ∀ other, Asks args other → other = command := fun other hother =>
      Except.ok.inj ((parse_eq_ok_iff.mpr hother).symm.trans (parse_eq_ok_iff.mpr hasks))
    rcases perform_cases host command with ⟨hsucceeds, lines, w, hlines⟩ | ⟨hfails, f, w, hraised⟩
    · rw [run_eq_of_done hasks hlines]
      refine ⟨fun other hother => ?_, .inl rfl, by simp,
        iff_of_true rfl ⟨command, hasks, hsucceeds⟩, fun _ _ _ => nofun, ?_⟩
      · rw [hunique other hother, hlines]
        exact nofun
      · rintro module path rfl v w₁ hreaches
        obtain rfl := hunique _ (.get module path)
        obtain ⟨text, w₂, htext, hline⟩ := getPath_of_reaches hreaches
        obtain ⟨rfl, -⟩ := Prod.mk.inj (hline.symm.trans hlines)
        exact ⟨text, w₂, htext, unlines_singleton text⟩
    · rw [run_eq_of_raised hasks hraised]
      refine ⟨fun other hother => ?_, .inr rfl, by simp, ?_, fun _ _ _ _ => rfl, ?_⟩
      · rw [hunique other hother, hraised]
        exact nofun
      · refine iff_of_false nofun ?_
        rintro ⟨other, hother, hsucceeds⟩
        exact hfails (hunique other hother ▸ hsucceeds)
      · rintro module path rfl v w₁ hreaches
        obtain rfl := hunique _ (.get module path)
        obtain ⟨text, w₂, htext, hline⟩ := getPath_of_reaches hreaches
        cases hline.symm.trans hraised
  · -- No command is asked for, so that there is none to succeed.
    have hwrong : ∀ command, ¬ Asks args command := fun command h => hasks ⟨command, h⟩
    obtain ⟨message, hrun⟩ := run_eq_of_wrong host hwrong
    rw [hrun]
    refine ⟨fun command h => absurd h (hwrong command), .inr rfl, by simp,
      iff_of_false nofun fun ⟨command, h, _⟩ => hwrong command h, ?_, ?_⟩ <;>
    · rintro module path rfl
      exact absurd (.get module path) (hwrong _)

/-! ## Arguments that are no texts -/

theorem fromUTF8?_eq_some_iff {bytes : ByteArray} {text : String} :
    String.fromUTF8? bytes = some text ↔ bytes = text.toUTF8 := by
  rw [String.fromUTF8?]
  constructor
  · intro h
    split at h
    · obtain rfl := Option.some.inj h
      rfl
    · cases h
  · rintro rfl
    exact dif_pos text.isValidUTF8

/-- Arguments are decoded just if they are the bytes of texts. -/
theorem decode_eq_ok_iff {arguments : List ByteArray} {texts : List String} :
    decode arguments = .ok texts ↔ arguments = texts.map String.toUTF8 := by
  induction arguments generalizing texts with
  | nil => cases texts <;> simp [decode]
  | cons argument rest ih =>
    rw [decode]
    cases hargument : String.fromUTF8? argument with
    | none =>
      refine iff_of_false nofun fun h => ?_
      obtain ⟨text, texts, rfl, htext, -⟩ := List.map_eq_cons_iff.mp h.symm
      cases hargument.symm.trans (fromUTF8?_eq_some_iff.mpr htext.symm)
    | some text =>
      obtain rfl := fromUTF8?_eq_some_iff.mp hargument
      cases texts with
      | nil => cases decode rest <;> simp [Except.map]
      | cons other texts =>
        have hrest := @ih texts
        cases hdecode : decode rest with
        | error bytes => simp_all [Except.map]
        | ok decoded =>
          -- Texts are told apart by their bytes.
          have htext : text = other ↔ text.toUTF8 = other.toUTF8 :=
            ⟨congrArg _, fun h => Option.some.inj
              (hargument.symm.trans (fromUTF8?_eq_some_iff.mpr h))⟩
          rw [hdecode, Except.ok.injEq] at hrest
          simp [Except.map, hrest, htext]

/-- **The program** answers an argument vector of texts, of which the first is its
    name.  It panics just if there is an argument that is no text: with status 101,
    with nothing on the standard output, and with a report. -/
theorem start_answers (host : Host) (arguments : List ByteArray) :
    (∀ texts : List String, arguments = texts.map String.toUTF8 →
      ∃ output, start host arguments = .exits output ∧ output.Answers host texts.tail) ∧
    ((∀ texts : List String, arguments ≠ texts.map String.toUTF8) →
      (start host arguments).status = 101 ∧ (start host arguments).stdout = "" ∧
        (start host arguments).reports = true) := by
  constructor
  · intro texts htexts
    refine ⟨run host texts.tail, ?_, run_answers host texts.tail⟩
    rw [start, decode_eq_ok_iff.mpr htexts]
  · intro hnone
    cases hdecode : decode arguments with
    | ok texts => exact absurd (decode_eq_ok_iff.mp hdecode) (hnone texts)
    | error argument =>
      rw [start, hdecode]
      exact ⟨rfl, rfl, rfl⟩

/-- A path leads to the name of the film. -/
theorem reaches_name (host : Host) : ∃ v w, Reaches host "_nezha" "NAME" v w := by
  rcases load_initial host "_nezha" with ⟨-, o, w, hw, -, hstore, hload⟩ | ⟨hmissing, -⟩
  · obtain ⟨rfl, rfl⟩ := Outcome.done.inj
      ((Catalogue.load_eq host.natives World.initial "_nezha").symm.trans hload)
    have hbound : (((Catalogue.loaded .initial).namespace?
        ⟨(Catalogue.nezhaMade .initial).heap.size⟩).any
          fun entries => decide ("NAME" ∈ entries.names)) = true := by decide +kernel
    obtain ⟨entries, hentries, hname⟩ := (Option.any_eq_true _ _).mp hbound
    obtain ⟨v, hread, -⟩ := getAttr_moduleAttributes host hw hstore (by
      rw [World.moduleAttributes, hentries, Option.map_some, Option.getD_some,
        Bindings.sortedNames, List.mem_mergeSort]
      exact of_decide_eq_true hname)
    exact ⟨v, _, _, _, ["NAME"], hload, by decide, .step hread (.here _ _)⟩
  · exact absurd List.mem_cons_self hmissing

/-- Help is asked for, but another argument is no text: the status is neither 0 nor 1.
    And no text that a path leads to is printed alone: the line is ended. -/
theorem panics_at_help :
    (start Stock.host ["ail".toUTF8, "help".toUTF8, ⟨#[0xff]⟩]).status = 101 ∧
    ∃ v w, Reaches Stock.host "_nezha" "NAME" v w ∧
      ∀ text w₁, Stock.host.stringify v w = .done text w₁ →
        (start Stock.host (["ail", "get", "_nezha", "NAME"].map String.toUTF8)).stdout ≠ text := by
  constructor
  · have hdecode : decode ["ail".toUTF8, "help".toUTF8, ⟨#[0xff]⟩] = .error ⟨#[0xff]⟩ := rfl
    rw [start, hdecode]
    rfl
  · obtain ⟨v, w, hreaches⟩ := reaches_name Stock.host
    refine ⟨v, w, hreaches, fun text w₁ htext => ?_⟩
    obtain ⟨printed, w₂, hprinted, hstdout⟩ :=
      (run_answers Stock.host _).stdout_of_reaches "_nezha" "NAME" rfl v w hreaches
    obtain ⟨rfl, -⟩ := Outcome.done.inj (htext.symm.trans hprinted)
    rw [start, decode_eq_ok_iff.mpr rfl]
    intro hstdout'
    have hlength := congrArg String.length (hstdout.symm.trans hstdout')
    rw [String.length_append] at hlength
    exact absurd hlength (by simp)

end CommandLine

end DynamicObjects
