/-
# Where a move leads

A move of an engine starts in one of two ways: at the first step, if the engine was not started, or else
at the target of the first rule that holds at the current step. From there on it is one chain in both
cases. `departure` is the first part and `travel` the whole, for good or on trial. Looking ahead is
`travel false` (`lookAhead_eq`), and the moves themselves are `travel true`.
-/

import Walkthrough.Engine.Move
import Walkthrough.Proofs.Engine.Chain

namespace Walkthrough

namespace Chain

/-- Closing a script does not change where its chains lead. -/
theorem run_freeze {write : Bool} {script : Script} {fuel : Nat} {done : List Int} {step : Step}
    {c : Chain} : run write script.freeze fuel done step c = run write script fuel done step c := by
  induction fuel generalizing done step c with
  | zero =>
    unfold run
    rfl
  | succ fuel ih =>
    have hstep : ∀ (f : FunctionCall) (c : Chain),
        runStep write script.freeze step f c = runStep write script step f c := fun _ _ => rfl
    unfold run
    simp only [hstep, ih]

end Chain

namespace Engine

variable {e : Engine}

/-- The step at which a move sets out, before any call step is run. -/
def departure (e : Engine) : Except Halt Step :=
  match e.current with
  | none =>
    match e.script.first with
    | none => .error (.failed (.script .noFirstStep))
    | some first =>
      match Chain.target e.script first with
      | .error error => .error (.failed error)
      | .ok step => .ok step
  | some current =>
    match Chain.target e.script current with
    | .error error => .error (.failed error)
    | .ok step =>
      let choice := e.selectedChoice current
      let missing := Chain.missing e.store step choice
      if !missing.isEmpty then .error (.failed (Chain.requiredError e.store missing))
      else (e.newChain [current]).onward e.script step choice

/-- The whole way of a move, from its departure to a say step. -/
def travel (e : Engine) (write : Bool) : Except Halt Step × Chain :=
  let c := e.newChain e.current.toList
  match e.departure with
  | .error halt => (.error halt, c)
  | .ok step => Chain.run write e.script (Chain.fuel e.script) [] step c

theorem resolve_eq {write : Bool} {current : Int} (h : e.current = some current) :
    e.resolve write current = e.travel write := by
  unfold resolve travel departure Chain.onward
  simp only [h, Option.toList_some]
  cases Chain.target e.script current with
  | error error => rfl
  | ok step =>
    dsimp only
    split
    · rfl
    · split
      · rfl
      · rcases (e.newChain [current]).firstTarget step.rules with error | _ | id
        · rfl
        · rfl
        · dsimp only
          cases Chain.target e.script id <;> rfl

theorem resolveStart_eq {write : Bool} {first : Int} (h : e.current = none)
    (hf : e.script.first = some first) : e.resolveStart write first = e.travel write := by
  unfold resolveStart travel departure
  simp only [h, hf, Option.toList_none]
  cases Chain.target e.script first <;> rfl

/-- **Looking ahead** is the way of a move on trial. -/
theorem lookAhead_eq : e.lookAhead = e.travel false := by
  unfold lookAhead
  split
  · next current h => exact resolve_eq h
  · next h =>
    split
    · next first hf => exact resolveStart_eq h hf
    · next hf =>
      unfold travel departure
      simp only [h, hf, Option.toList_none]

theorem departure_freeze : departure { e with script := e.script.freeze } = e.departure := rfl

/-- Closing the script of an engine does not change where its moves lead. -/
theorem travel_freeze {write : Bool} :
    travel { e with script := e.script.freeze } write = e.travel write := by
  unfold travel
  rw [departure_freeze]
  cases e.departure with
  | error halt => rfl
  | ok step => exact Chain.run_freeze

/-! ## What holds of a move -/

/-- A step of the script at which a move sets out, and how the current step leads to it. -/
theorem departure_ok {step : Step} (h : e.departure = .ok step) :
    ∃ id, e.script.step? id = some step ∧
      ∀ current, e.current = some current → id ∈ e.script.targets current := by
  unfold departure at h
  split at h
  · next hc =>
    split at h
    · cases h
    · next first _ =>
      split at h
      · cases h
      · next ht =>
        cases h
        exact ⟨first, Chain.target_eq_ok_iff.1 ht, fun current hcur => by rw [hc] at hcur; cases hcur⟩
  · next current hc =>
    split at h
    · cases h
    · next here ht =>
      dsimp only at h
      split at h
      · cases h
      · obtain ⟨id, hid, hstep⟩ := Chain.onward_ok h
        refine ⟨id, hstep, fun current' hcur => ?_⟩
        obtain rfl : current = current' := Option.some.inj (hc.symm.trans hcur)
        rw [Script.targets, Chain.target_eq_ok_iff.1 ht]
        exact hid

/-- **A move that ends well** reaches a say step of the script, which is one of the next say steps of the
current one. -/
theorem travel_ok (w : e.script.WellFormed) {write : Bool} {t : Step} {c : Chain}
    (h : e.travel write = (.ok t, c)) :
    t.isSay = true ∧ e.script.step? t.id = some t ∧
      ∀ current, e.current = some current → t.id ∈ e.script.nextSteps current := by
  unfold travel at h
  split at h
  · cases h
  · next step hd =>
    obtain ⟨id, hstep, htargets⟩ := departure_ok hd
    obtain rfl := w.keyed hstep
    obtain ⟨hsay, ht, hleads⟩ := Chain.run_ok w h hstep
    exact ⟨hsay, ht, fun current hcur =>
      w.mem_nextSteps_of_leads (htargets current hcur) hleads⟩

/-- **The first move** reaches a say step to which the first step leads. -/
theorem travel_ok_of_first (w : e.script.WellFormed) (hc : e.current = none) {write : Bool} {t : Step}
    {c : Chain} (h : e.travel write = (.ok t, c)) :
    ∃ first, e.script.first = some first ∧ e.script.Leads first t.id := by
  unfold travel departure at h
  cases hfirst : e.script.first with
  | none =>
    simp only [hc, hfirst] at h
    cases h
  | some first =>
    cases ht : Chain.target e.script first with
    | error err =>
      simp only [hc, hfirst, ht] at h
      cases h
    | ok step =>
      simp only [hc, hfirst, ht] at h
      have hstep := Chain.target_eq_ok_iff.1 ht
      obtain rfl := w.keyed hstep
      exact ⟨step.id, rfl, (Chain.run_ok w h hstep).2.2⟩

theorem travel_keeps (e : Engine) (write : Bool) : (e.newChain e.current.toList).Keeps (e.travel write).2 := by
  unfold travel
  split
  · exact .refl _
  · exact Chain.run_keeps

end Engine
end Walkthrough
