/-
# What the problems of a script say about its runs

The problems of a script are found in its graph, before it is run. They tell two things about every run. A
script without problems does not go wrong structurally (`serve_safe`). And a say step that is called
unreachable is never stood on, unless saved state is restored: the steps that are reachable from the first
step are closed under transitions, a move goes along a transition, and everything else only cuts the path
(`Effect.within`).
-/

import Walkthrough.Proofs.Engine.Structural

namespace Walkthrough
namespace Engine

variable {e e' : Engine} {P : List Int} {R : Int → Prop} {op : Operation}

/-- An engine whose path goes through certain steps only. -/
def Within (e : Engine) (R : Int → Prop) : Prop := ∃ P, e.OnPath P ∧ ∀ step ∈ P, R step

theorem Stays.within (h : e.Stays e') (hR : e.Within R) : e'.Within R := by
  obtain ⟨P, hP, hall⟩ := hR
  exact ⟨P, h.onPath hP, hall⟩

/-- A move goes to a step that is certain, or the path is cut. -/
theorem Within.arrive (h : e.Within R) {step : Step} {c : Chain} (hstep : R step.id)
    (made : e.isStarted = true ∨ step.isLoggable = true) : (e.moved (.ok step, c)).Within R := by
  obtain ⟨P, hP, hall⟩ := h
  obtain ⟨P', hmove, hP'⟩ := onPath_of_arrival c hP made
  refine ⟨P', hP', fun x hx => ?_⟩
  generalize step.id = t at hmove hstep
  cases hmove with
  | push =>
    rcases List.mem_append.1 hx with hx | hx
    · exact hall x hx
    · exact List.mem_singleton.1 hx ▸ hstep
  | @rewind A B =>
    rw [← List.singleton_append, ← List.append_assoc] at hall
    exact hall x (List.mem_append_left B hx)

/-- **What an operation does** keeps the path among certain steps if moves do. -/
theorem Effect.within {x : Except Error (Option Int)} (h : Effect e op x e') (hop : op.isRestore = false)
    (hR : e.Within R) (hmove : ∀ step c, e.travel true = (.ok step, c) → R step.id) : e'.Within R := by
  cases h with
  | refused => exact hR
  | halted =>
    obtain ⟨P, hP, hall⟩ := hR
    exact ⟨P, onPath_of_halt hP, hall⟩
  | started _ way logged => exact hR.arrive (hmove _ _ way) (.inr logged)
  | advanced way logged => exact hR.arrive (hmove _ _ way) (.inr logged)
  | fell _ first _ long =>
    obtain ⟨P, hP, hall⟩ := hR
    exact ⟨P, onPath_of_fall hP first long, hall⟩
  | stumbled current way => exact hR.arrive (hmove _ _ way) (.inl (by rw [isStarted, current]; rfl))
  | @wentBack left previous current link =>
    obtain ⟨P, hP, hall⟩ := hR
    obtain ⟨P', hstep, hP'⟩ := ((Effect.wentBack current link).onPath hP).1 _ rfl
    cases hstep with
    | @back Q _ t =>
      rw [show [previous, t] = [previous] ++ [t] from rfl, ← List.append_assoc] at hall
      exact ⟨_, hP', fun x hx => hall x (List.mem_append_left _ hx)⟩
  | wrote hs => exact hs.within hR
  | wroteChoice hs => exact hs.within hR
  | chose hs => exact hs.within hR
  | restored => cases hop
  | interrupted => cases hop

/-- Where a move leads from reachable steps. -/
theorem Within.travel {s : Script} {first : Int} (w : s.WellFormed) (r : e.Ready)
    (script : e.script.freeze = s.freeze) (hfirst : s.first = some first)
    (h : e.Within (· ∈ s.reachable first)) {write : Bool} {step : Step} {c : Chain}
    (way : e.travel write = (.ok step, c)) : step.id ∈ s.reachable first := by
  obtain ⟨hself, hclosed⟩ := w.reachable_closed first
  have hnext := Script.nextSteps_of_freeze_eq script
  cases hc : e.current with
  | none =>
    obtain ⟨first', hfirst', hleads⟩ := travel_ok_of_first r.wellFormed hc way
    have heq : e.script.freeze.first = s.freeze.first := congrArg Script.first script
    obtain rfl : first' = first := Option.some.inj (hfirst'.symm.trans (heq.trans hfirst))
    rcases r.wellFormed.eq_or_mem_nextSteps_of_leads hleads with hid | hmem
    · exact hid ▸ hself
    · exact hclosed _ hself _ (hnext _ ▸ hmem)
  | some current =>
    obtain ⟨P, hP, hall⟩ := h
    have hcurrent := hall current (List.mem_of_getLast? (hP.last.trans hc))
    obtain ⟨-, -, hmem⟩ := travel_ok r.wellFormed way
    exact hclosed current hcurrent _ (hnext _ ▸ hmem current hc)

/-- **Runs stay on reachable steps**, unless saved state is restored. -/
theorem serve_within {s : Script} {first : Int} (w : s.WellFormed) (hfirst : s.first = some first)
    (r : e.Ready) (script : e.script.freeze = s.freeze) (h : e.Within (· ∈ s.reachable first))
    {requests : List Request} (hrequests : ∀ request ∈ requests, request.isRestore = false) :
    (e.serve requests).Within (· ∈ s.reachable first) := by
  induction requests generalizing e with
  | nil => exact h
  | cons request rest ih =>
    obtain ⟨hk, hr⟩ := request_keeps r request
    refine ih hr (hk.script.trans script) ?_ fun q hq => hrequests q (List.mem_cons_of_mem _ hq)
    cases request with
    | nextStep =>
      change (Request.nextStep.act.after e).Within _
      rw [after_nextStep]
      exact e.peeked_stays.within h
    | perform op =>
      obtain ⟨x, events, e', told, heffect, hafter, -⟩ := does r op
      obtain ⟨P, hP, hall⟩ := heffect.within (hrequests _ List.mem_cons_self) h
        fun step c way => h.travel w r script hfirst way
      change (op.act.after e).Within _
      rw [hafter]
      exact ⟨P, hP, hall⟩

/-- **What the problems of a script say.** If it has none, no request of any run of a new engine ends in an
error that says that the script is wrong, as long as the functions of the host do not raise such errors
themselves; whatever is restored in between. And a say step that is called unreachable is not stood on after
any run in which nothing is restored. -/
theorem problems_foretell (fresh : e.Fresh) (requests : List Request) :
    (e.script.problems = [] → e.registry.Foreign → ∀ (request : Request) (err : Error),
      request.act.outcome (e.serve requests) = .error err → err.isStructural = false) ∧
      ∀ id, .unreachable id ∈ e.script.problems →
        (∀ request ∈ requests, request.isRestore = false) → (e.serve requests).current ≠ some id := by
  refine ⟨fun problems foreign request err => ?_, fun id hid hrequests hcurrent => ?_⟩
  · obtain ⟨-, hr⟩ := serve_keeps fresh.ready requests
    exact (serve_safe fresh problems foreign requests).request_tame hr request err
  · obtain ⟨first, hfirst, hlost⟩ := Script.unreachable_of_mem_problems hid
    have hstart : e.Within (· ∈ e.script.reachable first) :=
      ⟨[], (Stands.nil (Q := fun _ => True) fresh).onPath, fun _ h => absurd h List.not_mem_nil⟩
    obtain ⟨P, hP, hall⟩ := serve_within fresh.built.wellFormed hfirst fresh.ready rfl hstart hrequests
    exact hlost (hall id (List.mem_of_getLast? (hP.last.trans hcurrent)))

/-! ## An attic -/

/-- The relay with a say step to which no rule leads. -/
def attic : Script := relay.withSay "Attic" { id := .int 4, rules := [(none, .int 1)] }

theorem echoes_foreign : echoes.Foreign := by
  intro f hf earlier arguments err herr
  obtain rfl : f = ("echo", "echo", echo) := List.mem_singleton.1 hf
  cases herr

/-- A relay has no problems, whatever is restored. With an attic it has one, and there nobody comes. -/
theorem attic_foretold :
    relay.problems = [] ∧ attic.problems = [.unreachable 4] ∧
      (∀ err, (Request.perform .advance).act.outcome ((ofScript relay echoes).serve
        [.perform .start, .perform (.restore { current := some 3 }), .nextStep]) = .error err →
          err.isStructural = false) ∧
      ((ofScript attic echoes).serve [.perform .advance, .nextStep, .perform .advance]).current ≠ some 4 := by
  have none : relay.problems = [] := by decide +kernel
  have one : attic.problems = [.unreachable 4] := by decide +kernel
  have attic_fresh : (ofScript attic echoes).Fresh := ofScript_fresh (relay_built.withSay _ _) echoes
  obtain ⟨htame, -⟩ := problems_foretell relay_fresh
    [.perform .start, .perform (.restore { current := some 3 }), .nextStep]
  obtain ⟨-, hlost⟩ := problems_foretell attic_fresh [.perform .advance, .nextStep, .perform .advance]
  rw [script_ofScript, none] at htame
  rw [script_ofScript, one] at hlost
  exact ⟨none, one, htame rfl echoes_foreign _,
    hlost 4 (List.mem_singleton_self _) (by simp [Request.isRestore, Operation.isRestore])⟩

end Engine
end Walkthrough
