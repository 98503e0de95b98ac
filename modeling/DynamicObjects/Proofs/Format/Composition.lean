import DynamicObjects.Format

/-! # Formatting is compositional

    A directive ends with its conversion, and what is behind it has no part in
    it.  So a template that can be formatted does not end inside a directive, and
    whatever follows it is read as if it stood alone.

    The argument for a template `s ++ t`:
    1. Flags, width and precision are looked for as long as they last.  What ends
       them is there already, so `t` neither lengthens nor shortens them.
    2. Hence the pieces of `s ++ t` are those of `s` and then those of `t`, unless
       the last piece of `s` is incomplete.
    3. Each directive takes one argument, and `s` has taken all of its own when the
       first piece of `t` is reached.

    Main results:
    - `Format.parse_append`: the pieces of two templates in a row
    - `Format.substitute_append`: substitution goes on where it has come to an end
    - `Natives.format_append`: two templates in a row -/

namespace DynamicObjects

namespace Format

/-! ## Reading a directive -/

/-- A reader **stops** by itself: where it leaves something, it gives the same
    with more behind it, and leaves that too. -/
def Stops {α : Type} (read : List Char → α × List Char) : Prop :=
  ∀ cs ds, (read cs).2 ≠ [] → read (cs ++ ds) = ((read cs).1, (read cs).2 ++ ds)

theorem stops_takeFlags (layout : Layout) : Stops (takeFlags layout) := by
  intro cs ds hrest
  fun_induction takeFlags layout cs with
  | case1 layout cs ih => exact ih hrest
  | case2 layout cs ih => exact ih hrest
  | case3 layout cs ih => exact ih hrest
  | case4 layout cs hleft hzero hplus =>
    -- The first character is no flag, and it is there.
    obtain ⟨c, cs, rfl⟩ := List.exists_cons_of_ne_nil hrest
    rw [List.cons_append, takeFlags]
    · rintro tail ⟨⟩
      exact hleft cs rfl
    · rintro tail ⟨⟩
      exact hzero cs rfl
    · rintro tail ⟨⟩
      exact hplus cs rfl

theorem stops_takeNumber : Stops takeNumber := by
  intro cs ds hrest
  have hdrop : cs.dropWhile Char.isDigit ≠ [] := hrest
  have hlength : (cs.takeWhile Char.isDigit).length ≠ cs.length := by
    intro hall
    have hsplit := congrArg List.length
      (List.takeWhile_append_dropWhile (p := Char.isDigit) (l := cs))
    rw [List.length_append, hall] at hsplit
    exact hdrop (List.length_eq_zero_iff.mp (by omega))
  simp [takeNumber, List.takeWhile_append, List.dropWhile_append, hdrop, hlength]

theorem stops_takePrecision : Stops takePrecision := by
  intro cs ds hrest
  by_cases hpoint : ∃ tail, cs = '.' :: tail
  · obtain ⟨tail, rfl⟩ := hpoint
    have hnumber := stops_takeNumber tail ds hrest
    simp [takePrecision, hnumber]
  · -- Without a point nothing is read, and the first character is no point.
    have hcs : takePrecision cs = (none, cs) := by
      rw [takePrecision]
      exact fun tail htail => hpoint ⟨tail, htail⟩
    rw [hcs] at hrest ⊢
    obtain ⟨c, cs, rfl⟩ := List.exists_cons_of_ne_nil hrest
    rw [List.cons_append, takePrecision]
    rintro tail ⟨⟩
    exact hpoint ⟨cs, rfl⟩

/-- **A directive ends with its conversion**: its layout does not depend on what
    follows. -/
theorem stops_takeLayout : Stops takeLayout := by
  intro cs ds hrest
  have hprecision : (takePrecision (takeNumber (takeFlags .default cs).2).2).2 ≠ [] := hrest
  -- Something is left behind the width, and so behind the flags.
  have hwidth : (takeNumber (takeFlags .default cs).2).2 ≠ [] := by
    intro hnil
    rw [hnil] at hprecision
    exact hprecision rfl
  have hflags : (takeFlags .default cs).2 ≠ [] := by
    intro hnil
    rw [hnil] at hwidth
    exact hwidth rfl
  simp only [takeLayout, stops_takeFlags _ cs ds hflags, stops_takeNumber _ ds hwidth,
    stops_takePrecision _ ds hprecision]

/-! ## Reading a template -/

/-- **Pieces**: if a template is complete, its pieces are read before those of
    what follows. -/
theorem parse_append {s : List Char} (hs : Piece.incomplete ∉ parse s) (t : List Char) :
    parse (s ++ t) = parse s ++ parse t := by
  fun_induction parse s with
  | case1 => rfl
  | case2 cs layout hlayout => simp at hs
  | case3 cs layout conversion rest hlayout ih =>
    have hstop := stops_takeLayout cs t (by rw [hlayout]; exact List.cons_ne_nil _ _)
    rw [hlayout] at hstop
    rw [List.mem_cons, not_or] at hs
    rw [List.cons_append, parse, if_pos rfl, hstop, List.cons_append]
    simp only [ih hs.2, List.cons_append]
  | case4 c cs hc ih =>
    rw [List.mem_cons, not_or] at hs
    rw [List.cons_append, parse, if_neg hc, ih hs.2, List.cons_append]

/-! ## Substitution -/

section substitution
variable {natives : Natives} {pieces : List Piece} {args : List Value} {w w₁ : World}
  {text : List Char}

/-- Where a substitution succeeds, no piece is incomplete. -/
theorem incomplete_notMem_of_substitute
    (h : substitute natives pieces args w = .done text w₁) : Piece.incomplete ∉ pieces := by
  fun_induction substitute natives pieces args generalizing text w w₁ with
  | case1 => exact List.not_mem_nil
  | case2 => cases h
  | case3 c pieces args ih =>
    obtain ⟨rest, w₂, hrest, -⟩ := Run.bind_eq_done_iff.mp h
    simp [ih hrest]
  | case4 => cases h
  | case5 layout conversion pieces v args ih =>
    obtain ⟨body, w₂, -, h⟩ := Run.bind_eq_done_iff.mp h
    obtain ⟨rest, w₃, hrest, -⟩ := Run.bind_eq_done_iff.mp h
    simp [ih hrest]
  | case6 => cases h

/-- **Substitution goes on** with the pieces and the arguments that follow, in the
    world that it has come to. -/
theorem substitute_append (h : substitute natives pieces args w = .done text w₁)
    (pieces' : List Piece) (args' : List Value) :
    substitute natives (pieces ++ pieces') (args ++ args') w =
      (do let more ← substitute natives pieces' args'
          return text ++ more : Run (List Char)) w₁ := by
  fun_induction substitute natives pieces args generalizing text w with
  | case1 =>
    obtain ⟨rfl, rfl⟩ := Outcome.done.inj h
    simp
  | case2 => cases h
  -- Of the other cases those that fail are excluded by what has come out.
  | case3 c pieces args ih =>
    obtain ⟨rest, w₂, hrest, h⟩ := Run.bind_eq_done_iff.mp h
    obtain ⟨rfl, rfl⟩ := Outcome.done.inj h
    show (do let text ← substitute natives (pieces ++ pieces') (args ++ args')
             return c :: text : Run (List Char)) w = _
    rw [Run.bind_apply, ih hrest, Run.bind_apply, Run.bind_apply]
    cases substitute natives pieces' args' w₂ <;> rfl
  | case4 => cases h
  | case5 layout conversion pieces v args ih =>
    obtain ⟨body, w₂, hbody, h⟩ := Run.bind_eq_done_iff.mp h
    obtain ⟨rest, w₃, hrest, h⟩ := Run.bind_eq_done_iff.mp h
    obtain ⟨rfl, rfl⟩ := Outcome.done.inj h
    show (do let body ← convert natives layout conversion v
             let text ← substitute natives (pieces ++ pieces') (args ++ args')
             return body ++ text : Run (List Char)) w = _
    rw [Run.bind_apply, hbody]
    show (do let text ← substitute natives (pieces ++ pieces') (args ++ args')
             return body ++ text : Run (List Char)) w₂ = _
    rw [Run.bind_apply, ih hrest, Run.bind_apply, Run.bind_apply]
    cases substitute natives pieces' args' w₃ with
    | done more w₄ => simp [List.append_assoc]
    | raised f w₄ => rfl
    | diverged => rfl
  | case6 => cases h

end substitution

end Format

/-! ## Templates in a row -/

namespace Natives

/-- **Formatting is compositional**: if a template succeeds with its arguments,
    what follows it succeeds, fails or never ends with the arguments that follow
    as it does by itself, in the world that the first part leaves. -/
theorem format_append {natives : Natives} {s : List Char} {args : List Value} {w w₁ : World}
    {text : List Char} (h : natives.format s args w = .done text w₁) (t : List Char)
    (args' : List Value) :
    (∀ more w₂, natives.format t args' w₁ = .done more w₂ →
      natives.format (s ++ t) (args ++ args') w = .done (text ++ more) w₂) ∧
    (∀ f w₂, natives.format t args' w₁ = .raised f w₂ →
      natives.format (s ++ t) (args ++ args') w = .raised f w₂) ∧
    (natives.format t args' w₁ = .diverged →
      natives.format (s ++ t) (args ++ args') w = .diverged) := by
  have hpieces := Format.parse_append (Format.incomplete_notMem_of_substitute h) t
  have happend : natives.format (s ++ t) (args ++ args') w =
      (do let more ← natives.format t args'
          return text ++ more : Run (List Char)) w₁ := by
    unfold format
    rw [hpieces]
    exact Format.substitute_append h _ args'
  rw [Run.bind_apply] at happend
  -- Whatever the second part does is passed on, with the first text in front of a result.
  refine ⟨?_, ?_, ?_⟩
  · intro more w₂ hmore
    rw [happend, hmore]
    rfl
  · intro f w₂ hfault
    rw [happend, hfault]
  · intro hdiverged
    rw [happend, hdiverged]

/-- The digits behind the first directive are not part of it, and what is missing
    behind it is missed there. -/
theorem format_append_digits :
    format (fun _ _ _ => Run.diverge) ['%', '-', '3', 'd'] [.int 7] World.initial =
        .done ['7', ' ', ' '] World.initial ∧
      format (fun _ _ _ => Run.diverge) ['%', '-', '3', 'd', '0', '5', '%', 'x'] [.int 7, .int 42]
        World.initial = .done ['7', ' ', ' ', '0', '5', '2', 'a'] World.initial ∧
      format (fun _ _ _ => Run.diverge) ['%', '-', '3', 'd', '0', '5', '%', 'x'] [.int 7]
        World.initial = .raised .tooFewArguments World.initial := by
  have hpieces : Format.parse ['%', '-', '3', 'd'] =
      [.directive ⟨true, false, false, 3, none⟩ 'd'] := by decide +kernel
  have hbehind : Format.parse ['0', '5', '%', 'x'] =
      [.literal '0', .literal '5', .directive .default 'x'] := by decide +kernel
  have hfirst : format (fun _ _ _ => Run.diverge) ['%', '-', '3', 'd'] [.int 7] World.initial =
      .done ['7', ' ', ' '] World.initial := by
    rw [format, hpieces]
    rfl
  -- The second part is what it is by itself, with an argument and without.
  obtain ⟨hdone, -, -⟩ := format_append hfirst ['0', '5', '%', 'x'] [.int 42]
  obtain ⟨-, hraised, -⟩ := format_append hfirst ['0', '5', '%', 'x'] []
  refine ⟨hfirst, hdone ['0', '5', '2', 'a'] _ ?_, hraised .tooFewArguments _ ?_⟩
  · rw [format, hbehind]
    rfl
  · rw [format, hbehind]
    rfl

end Natives

end DynamicObjects
