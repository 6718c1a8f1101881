/-
# Numbers of steps and choices

A step and a choice are added under a positive number only, and keep it. So every number under which a
script that was built has a step or a choice is positive (`Built.numbered`): it can be written in digits
and read back.
-/

import Walkthrough.Proofs.Script.Built

namespace Walkthrough
namespace Script

variable {s t : Script}

/-- The numbers of the steps of a script and of their choices are positive. -/
structure Numbered (s : Script) : Prop where
  step : ∀ {id : Int} {t : Step}, s.step? id = some t → 0 < id
  choice : ∀ {id : Int} {t : Step}, s.step? id = some t → ∀ c ∈ t.choices, 0 < c.id

/-- A choice that was added is the new one or one of those before. -/
theorem mem_choices_withChoice {x : Step} {c c' : Choice} (h : c' ∈ (withChoice x c).choices) :
    c' ∈ x.choices ∨ c' = c := by
  unfold withChoice at h
  unfold Step.choices at h ⊢
  cases hbody : x.body with
  | say text choices =>
    simp only [hbody, List.mem_append, List.mem_singleton] at h
    exact h
  | call f =>
    simp only [hbody] at h
    cases h

/-- Putting a step under its own positive number. -/
theorem Numbered.insert (n : s.Numbered) {x : Step} (pos : 0 < x.id) (hx : ∀ c ∈ x.choices, 0 < c.id)
    (hsteps : t.steps = s.steps.insert x.id x) : t.Numbered := by
  constructor
  · intro id u hu
    rcases step?_of_insert hsteps hu with ⟨rfl, -⟩ | hu
    · exact pos
    · exact n.step hu
  · intro id u hu
    rcases step?_of_insert hsteps hu with ⟨-, rfl⟩ | hu
    · exact hx
    · exact n.choice hu

/-- Adding a step: it offers no choice yet. -/
theorem Numbered.addBody (n : s.Numbered) {body : StepBody} {d : StepDraft} {x : Step}
    (h : s.addBody body d = .ok (t, x)) (choiceless : ∀ text cs, body = .say text cs → cs = []) :
    t.Numbered := by
  obtain ⟨pos, -, hbody, -, -, hsteps⟩ := addBody_cases h
  refine n.insert pos (fun c hc => ?_) hsteps
  unfold Step.choices at hc
  rw [hbody] at hc
  split at hc
  · next text cs =>
    rw [choiceless text cs rfl] at hc
    cases hc
  · cases hc

theorem Numbered.addSay (n : s.Numbered) {text : String} {d : StepDraft} {x : Step}
    (h : s.addSay text d = .ok (t, x)) : t.Numbered :=
  n.addBody (addSay_eq_addBody h) fun _ _ heq => (StepBody.say.inj heq).2.symm

theorem Numbered.addCall (n : s.Numbered) {c : CallDraft} {d : StepDraft} {x : Step}
    (h : s.addCall c d = .ok (t, x)) : t.Numbered := by
  obtain ⟨f, hf⟩ := addCall_eq_addBody h
  exact n.addBody hf fun _ _ heq => nomatch heq

theorem Numbered.of_freeze_eq (n : s.Numbered) (h : t.freeze = s.freeze) : t.Numbered := by
  have hstep : t.freeze.step? = s.freeze.step? := congrArg step? h
  exact ⟨fun hu => n.step ((congrFun hstep _).symm.trans hu),
    fun hu => n.choice ((congrFun hstep _).symm.trans hu)⟩

/-- **Scripts that were built have positive numbers.** -/
theorem Built.numbered (b : s.Built) : s.Numbered := by
  induction b with
  | ofProperties h =>
    constructor <;>
    · intro id t ht
      rw [step?, steps_of_ofProperties h] at ht
      cases ht
  | addSay b h ih => exact ih.addSay h
  | addCall b h ih => exact ih.addCall h
  | addStep b h ih => exact (addStep_cases h).elim ih.addSay ih.addCall
  | @addChoice s t step d x b h ih =>
    obtain ⟨id, old, hold, pos, -, hsteps⟩ := addChoice_cases h
    have hid : 0 < old.id := b.wellFormed.keyed hold ▸ ih.step hold
    refine ih.insert (x := withChoice old x) ?_ (fun c hc => ?_) ?_
    · rwa [id_withChoice]
    · rcases mem_choices_withChoice hc with hc | rfl
      · exact ih.choice hold c hc
      · exact pos
    · rwa [id_withChoice]
  | freeze b ih => exact ⟨ih.step, ih.choice⟩

/-- A choice that can be found has a positive number, and so has its step. -/
theorem Numbered.pos_of_choice? (n : s.Numbered) {step choice : Int}
    (h : (s.choice? step choice).isSome = true) : 0 < step ∧ 0 < choice := by
  obtain ⟨c, hc⟩ := Option.isSome_iff_exists.1 h
  obtain ⟨u, hu, hfind⟩ := Option.bind_eq_some_iff.1 hc
  have hid : c.id = choice := by simpa using List.find?_some hfind
  exact ⟨n.step hu, hid ▸ n.choice hu c (List.mem_of_find?_eq_some hfind)⟩

end Script
end Walkthrough
