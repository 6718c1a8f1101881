/-
# What selecting a choice announces

A choice writes its values one after the other, and each write looks ahead for itself. While it does so the choice
that was selected before is still in force, with all that it requires; the new one comes into force when everything
is written, and nobody looks ahead then.

| looks ahead | with the values | with what is required by |
| --- | --- | --- |
| the write of a value | that are written so far | the step and the choice selected before |
| a move afterwards | of the new choice, all of them | the step and the new choice |

So listeners may be told of a step to which the new choice shuts the way, and they are not told of one to which only
the old choice did (`shutters_announced`). What the old choice requires decides which: once it is filled in, the step
that follows is the last one that listeners were told of, unless it followed before (`selectChoice_announces`).
-/

import Walkthrough.Proofs.Engine.Complaints
import Walkthrough.Proofs.Engine.Loops
import Walkthrough.Proofs.Engine.OnTrial
import Walkthrough.Proofs.Engine.SavedText

namespace Walkthrough

/-- The step that listeners are told they can reach. -/
def Event.readyStep? : Event → Option Int
  | nextStepReady step => some step
  | _ => none

/-- The last step that listeners are told they can reach. -/
def lastReady (events : List Event) : Option Int := (events.filterMap Event.readyStep?).getLast?

namespace Engine

variable {e e' : Engine}

/-! ## Writing several values -/

/-- What writing values one after the other tells: after each write the step that is foreseen then, if it was not
foreseen right before that write. -/
def hints (e : Engine) : List (Int × Value) → List Event
  | [] => []
  | (id, v) :: rest =>
    let e' := (setValue id v).after e
    readyEvents e.foreseen e'.foreseen ++ e'.hints rest

/-- What was told on the way from one foreseen step to another: the last step that was told of is the one that is
foreseen in the end, and if there is none, that one was foreseen before. -/
def Announces (before after : Option Int) (told : List Event) : Prop :=
  ∀ t, after = some t → lastReady told = some t ∨ lastReady told = none ∧ before = some t

theorem lastReady_append (xs ys : List Event) : lastReady (xs ++ ys) = (lastReady ys).or (lastReady xs) := by
  unfold lastReady
  rw [List.filterMap_append, List.getLast?_append]

theorem Announces.refl (before : Option Int) : Announces before before [] := fun _ h => .inr ⟨rfl, h⟩

theorem Announces.trans {a b c : Option Int} {xs ys : List Event} (h : Announces a b xs) (h' : Announces b c ys) :
    Announces a c (xs ++ ys) := by
  intro t ht
  rw [lastReady_append]
  rcases h' t ht with hlast | ⟨hnone, hb⟩
  · rw [hlast]
    exact .inl rfl
  · rw [hnone]
    exact h t hb

theorem readyEvents_announces (before after : Option Int) : Announces before after (readyEvents before after) := by
  intro t ht
  rcases readyEvents_cases before after with ⟨htold, hsame⟩ | ⟨u, htold, hafter, -⟩
  · rw [htold]
    exact .inr ⟨rfl, hsame t ht⟩
  · obtain rfl : u = t := Option.some.inj (hafter.symm.trans ht)
    rw [htold]
    exact .inl rfl

/-- A value that was written without complaint has a form for its property, and its hint was told. -/
theorem emitted_setValue (pure : e.registry.Pure) {id : Int} {v : Value} (h : setValue id v e = .ok () e') :
    e'.emitted = e.emitted ++ readyEvents e.foreseen e'.foreseen := by
  have hafter : (setValue id v).after e = e' := Act.after_ok h
  cases hconvert : e.store.convert id v with
  | error err =>
    obtain ⟨e₁, heq, -⟩ := setValue_of_error hconvert
    rw [heq] at h
    cases h
  | ok w =>
    cases hlog : Store.isLoggable id w with
    | false =>
      rw [setValue_of_not_isLoggable hconvert hlog] at h
      cases h
    | true =>
      have hforeseen := foreseen_setValue pure hconvert hlog
      have hemitted := congrArg emitted (after_setValue hconvert hlog)
      rw [hafter] at hforeseen hemitted
      rw [hforeseen]
      exact hemitted

/-- **Writing several values** tells the hints of the writes, and the last of them names the step that is foreseen in
the end. -/
theorem setValues_announces (pure : e.registry.Pure) {es : List (Int × Value)} (h : setValues es e = .ok () e') :
    e'.emitted = e.emitted ++ e.hints es ∧ Announces e.foreseen e'.foreseen (e.hints es) := by
  induction es generalizing e with
  | nil =>
    cases h
    exact ⟨(List.append_nil _).symm, .refl _⟩
  | cons x rest ih =>
    obtain ⟨id, v⟩ := x
    unfold setValues at h
    cases hwrite : setValue id v e with
    | error err e₁ =>
      rw [Act.bind_error hwrite] at h
      cases h
    | ok u e₁ =>
      rw [Act.bind_ok hwrite] at h
      have hafter : (setValue id v).after e = e₁ := Act.after_ok hwrite
      have hkept := (setValue_stays id v e).functions
      rw [hafter] at hkept
      obtain ⟨htold, hannounced⟩ := ih (pure.congr hkept) h
      have hhints : e.hints ((id, v) :: rest) = readyEvents e.foreseen e₁.foreseen ++ e₁.hints rest := by
        rw [hints, hafter]
      rw [hhints]
      refine ⟨?_, (readyEvents_announces _ _).trans hannounced⟩
      rw [htold, emitted_setValue pure hwrite, List.append_assoc]

/-! ## Another choice -/

/-- **A choice can only shut the way.** A move that sets out with another choice sets out with the selected one as
well, if all that this one requires is filled in. -/
theorem SetsOut.of_select {step : Int} (hc : e.current = some step)
    (hfilled : ∀ c, e.selectedChoice step = some c → ∀ id ∈ c.required, (e.store.value id).isBlank = false)
    {selected : OrderedMap Int Int} {told : List Event} {first : Step}
    (h : SetsOut { e with selected := selected, emitted := told } first) : e.SetsOut first := by
  unfold SetsOut at h ⊢
  simp only [hc] at h ⊢
  obtain ⟨here, hhere, hmissing, hleads⟩ := h
  refine ⟨here, hhere, List.eq_nil_iff_forall_not_mem.2 fun id hid => ?_, hleads⟩
  obtain ⟨hstep | ⟨c, hchoice, hid⟩, hblank⟩ := Chain.mem_missing.1 hid
  · exact List.eq_nil_iff_forall_not_mem.1 hmissing id (Chain.mem_missing.2 ⟨.inl hstep, hblank⟩)
  · rw [hfilled c hchoice id hid] at hblank
    cases hblank

theorem foreseen_of_select {step t : Int} (hc : e.current = some step)
    (hfilled : ∀ c, e.selectedChoice step = some c → ∀ id ∈ c.required, (e.store.value id).isBlank = false)
    {selected : OrderedMap Int Int} {told : List Event}
    (h : foreseen { e with selected := selected, emitted := told } = some t) : e.foreseen = some t := by
  unfold foreseen travel at h ⊢
  cases hd : departure { e with selected := selected, emitted := told } with
  | error halt =>
    rw [hd] at h
    cases h
  | ok first =>
    -- From the step where they set out, both go the same way.
    rw [departure_eq_ok_iff.2 ((departure_eq_ok_iff.1 hd).of_select hc hfilled)]
    rw [hd] at h
    exact h

/-- Selecting a choice well: it is selected already and nothing happens, or its values are written and it is noted. -/
theorem selectChoice_ok {step choice : Int} (h : selectChoice step choice e = .ok () e') :
    e.current = some step ∧ ∃ c, e.script.choice? step choice = some c ∧
      (e.selected.get? step = some choice ∧ e' = e ∨
        e.selected.get? step ≠ some choice ∧ ∃ e₁, setValues c.values.entries e = .ok () e₁ ∧
          e' = { e₁ with
            selected := e₁.selected.insert step choice
            emitted := e₁.emitted ++ [.choiceActivated step choice] }) := by
  rw [selectChoice_eq] at h
  split at h
  · cases h
  next current hc =>
    split at h
    · cases h
    next hstep =>
      obtain rfl : step = current := by simpa using hstep
      refine ⟨hc, ?_⟩
      split at h
      · cases h
      next c hchoice =>
        refine ⟨c, hchoice, ?_⟩
        split at h
        · next hselected =>
          cases h
          exact .inl ⟨by simpa using hselected, rfl⟩
        · next hselected =>
          split at h
          · cases h
          · next u e₁ hwritten =>
            refine .inr ⟨by simpa using hselected, e₁, hwritten, ?_⟩
            exact (Act.after_ok h).symm.trans (after_report_of_length_le_one _ (Nat.le_refl 1))

/-- **What selecting a choice announces.** Selecting the choice that is selected already tells nothing. Otherwise
listeners are told the hints of the writes, for which the choice selected before stays in force, and then that the
choice was activated. If that earlier choice, should there be one, requires nothing that is blank in the end, then the
step that follows is the last one that listeners were told they can reach, or they were told of none and it followed
before. -/
theorem selectChoice_announces (pure : e.registry.Pure) {step choice : Int}
    (h : selectChoice step choice e = .ok () e') :
    ∃ told, e'.emitted = e.emitted ++ told ∧
      (e.selected.get? step = some choice ∧ told = [] ∨
        e.selected.get? step ≠ some choice ∧ ∃ c, e.script.choice? step choice = some c ∧
          told = e.hints c.values.entries ++ [.choiceActivated step choice]) ∧
      ((∀ c, e.selectedChoice step = some c → ∀ id ∈ c.required, (e'.store.value id).isBlank = false) →
        ∀ t, peek.outcome e' = .ok (some t) →
          lastReady told = some t ∨ lastReady told = none ∧ peek.outcome e = .ok (some t)) := by
  obtain ⟨hc, c, hchoice, ⟨hselected, rfl⟩ | ⟨hselected, e₁, hwritten, rfl⟩⟩ := selectChoice_ok h
  · exact ⟨[], (List.append_nil _).symm, .inl ⟨hselected, rfl⟩, fun _ t ht => .inr ⟨rfl, ht⟩⟩
  · obtain ⟨htold, hannounced⟩ := setValues_announces pure hwritten
    have hstays : e.Stays e₁ := Act.after_ok hwritten ▸ setValues_stays c.values.entries e
    have hbefore : e₁.selectedChoice step = e.selectedChoice step := by
      unfold selectedChoice
      rw [hstays.selected, Script.choice?_of_freeze_eq hstays.script]
    refine ⟨e.hints c.values.entries ++ [.choiceActivated step choice], ?_, .inr ⟨hselected, c, hchoice, rfl⟩, ?_⟩
    · rw [← List.append_assoc, ← htold]
    · intro hfilled t ht
      rw [outcome_peek, Except.ok.injEq] at ht
      have hlast : lastReady (e.hints c.values.entries ++ [.choiceActivated step choice]) =
          lastReady (e.hints c.values.entries) := lastReady_append _ _
      rw [outcome_peek, Except.ok.injEq, hlast]
      exact hannounced t (foreseen_of_select (hstays.current.trans hc) (hbefore ▸ hfilled) ht)

/-! ## Shutters -/

/-- A page that is left once a note was made. One choice makes the note and asks for a number besides; the other one
only makes a note. -/
def shutters : Script :=
  let page := blankDiary.withSay "Shut" { id := .int 1, first := true, required := [1], rules := [(none, .int 2)] }
  let strict : ChoiceDraft := { id := .int 1, text := "Strict", required := [2], values := .ofList [(1, .text "mine")] }
  let easy : ChoiceDraft := { id := .int 2, text := "Easy", values := .ofList [(1, .text "yours")] }
  let page := page.added (page.addChoice (.int 1) strict)
  let page := page.added (page.addChoice (.int 1) easy)
  page.withSay "Open" { id := .int 2 }

theorem shutters_built : shutters.Built :=
  have page := blankDiary_built.withSay _ _
  have page := page.added fun _ _ h => page.addChoice h
  (page.added fun _ _ h => page.addChoice h).withSay _ _

/-- Who chooses the easy way at once is told of the way on. -/
theorem shutters_opened :
    let e := (ofScript shutters echoes).run [.start]
    ∃ e', selectChoice 1 2 e = .ok () e' ∧ peek.outcome e = .ok none ∧ peek.outcome e' = .ok (some 2) ∧
      ∃ told, e'.emitted = e.emitted ++ told ∧ lastReady told = some 2 := by
  intro e
  have hchosen : (selectChoice 1 2).outcome e = .ok () := Act.outcome_of_toOption (by decide +kernel)
  have hbefore : peek.outcome e = .ok none := Act.outcome_of_toOption (by decide +kernel)
  have hafter : peek.outcome ((selectChoice 1 2).after e) = .ok (some 2) :=
    Act.outcome_of_toOption (by decide +kernel)
  have hselected : (e.selectedChoice 1).isNone = true := by decide +kernel
  have fresh : (ofScript shutters echoes).Fresh := ofScript_fresh shutters_built echoes
  have hkeeps : (ofScript shutters echoes).Keeps e := (run_keeps fresh.ready [.start]).1
  clear_value e
  have hnone : e.selectedChoice 1 = none := Option.isNone_iff_eq_none.1 hselected
  have pure : e.registry.Pure := echoes_pure.congr hkeeps.functions
  obtain ⟨told, htold, -, hlast⟩ := selectChoice_announces pure (Act.eq_ok_of_outcome hchosen)
  refine ⟨_, Act.eq_ok_of_outcome hchosen, hbefore, hafter, told, htold, ?_⟩
  rcases hlast (by simp [hnone]) 2 hafter with hlast | ⟨-, hsame⟩
  · exact hlast
  · rw [hbefore] at hsame
    cases hsame

/-- **The hints go by the old choice.** Who chooses the strict way is told of a step that does not follow then; who
turns from there to the easy way is not told of it, although it follows now. -/
theorem shutters_announced :
    let e := (ofScript shutters echoes).run [.start]
    let strict := (selectChoice 1 1).after e
    let easy := (selectChoice 1 2).after strict
    (selectChoice 1 1).outcome e = .ok () ∧ strict.emitted = e.emitted ++ [.nextStepReady 2, .choiceActivated 1 1] ∧
      peek.outcome strict = .ok none ∧
    (selectChoice 1 2).outcome strict = .ok () ∧ easy.emitted = strict.emitted ++ [.choiceActivated 1 2] ∧
      peek.outcome easy = .ok (some 2) := by
  refine ⟨Act.outcome_of_toOption ?_, ?_, Act.outcome_of_toOption ?_, Act.outcome_of_toOption ?_, ?_,
    Act.outcome_of_toOption ?_⟩ <;> decide +kernel

end Engine
end Walkthrough
