/-
# Moves stay among the next say steps

The next say steps of a step are found in the graph of a script, before it is run. They are exactly the ends
of the passages from the step (`nextSteps_exact`), whatever circles the graph has and whatever rules lead
nowhere. A move that ends well goes along a passage, whatever the store holds and whatever the functions
answer: the first rule that holds leads to a step or into a chain of call steps, and each of these goes on by a
rule of its own (`travel_ok`). So no move leads to a say step that was not foretold.
-/

import Walkthrough.Proofs.Engine.Run
import Walkthrough.Proofs.Script.Paths

namespace Walkthrough

/-- The parts of an operation that ends well, each of which ends well. -/
theorem Act.outcome_bind_ok {α β : Type} {m : Act α} {f : α → Act β} {e : Engine} {b : β}
    (h : (m >>= f).outcome e = .ok b) : ∃ a e', m e = .ok a e' ∧ (f a).outcome e' = .ok b := by
  unfold Act.outcome at h
  rw [Act.bind_eq] at h
  cases hm : m e with
  | error err e' =>
    rw [hm] at h
    cases h
  | ok a e' =>
    rw [hm] at h
    exact ⟨a, e', rfl, h⟩

namespace Engine

variable {e : Engine} {a t : Int}

/-- The end of a way is a result only if the way has one. -/
theorem eq_ok_of_conclude {α : Type} {r : Except Halt α} {x : α} {e' : Engine}
    (h : conclude r e = .ok x e') : r = .ok x := by
  have houtcome := Act.outcome_ok h
  rw [conclude_eq, outcome_report] at houtcome
  split at houtcome
  · cases houtcome
  · exact verdict_eq_ok_iff.1 houtcome

/-- **Going on** from a step ends well only at the end of the way that the move takes. -/
theorem travel_of_advance (hc : e.current = some a) (h : advance.outcome e = .ok t) :
    ∃ step c, e.travel true = (.ok step, c) ∧ step.id = t := by
  unfold advance at h
  obtain ⟨_, _, ⟨⟩, h⟩ := Act.outcome_bind_ok h
  simp only [hc, resolve_eq hc] at h
  obtain ⟨_, _, ⟨⟩, h⟩ := Act.outcome_bind_ok h
  obtain ⟨step, e₁, hstep, h⟩ := Act.outcome_bind_ok h
  obtain ⟨_, _, -, h⟩ := Act.outcome_bind_ok h
  exact ⟨step, _, Prod.ext (eq_ok_of_conclude hstep) rfl, Except.ok.inj h⟩

/-- **The next say steps are exact.** The search for them ends by itself. It finds the ends of the passages from
a step and nothing else, each once; it finds nothing from a number that no step has; and a step that is reached
by going on from a step is among them. -/
theorem nextSteps_exact {s : Script} (b : s.Built) (a : Int) :
    (∀ fuel, 2 * s.ruleCount + 1 ≤ fuel → s.follow fuel (s.targets a) [] [] = s.nextSteps a) ∧
      (s.nextSteps a).Nodup ∧
      (∀ t, t ∈ s.nextSteps a ↔ ∃ between, s.Passage a between t) ∧
      (s.step? a = none → s.nextSteps a = []) ∧
      ∀ e : Engine, e.script.freeze = s.freeze → e.current = some a →
        ∀ t, advance.outcome e = .ok t → t ∈ s.nextSteps a := by
  refine ⟨fun fuel => b.wellFormed.follow_eq_nextSteps, Script.nodup_nextSteps s a,
    fun t => b.wellFormed.mem_nextSteps_iff, Script.nextSteps_of_step?_eq_none, fun e hscript hc t ht => ?_⟩
  obtain ⟨step, c, hway, rfl⟩ := travel_of_advance hc ht
  obtain ⟨-, -, hnext⟩ := travel_ok (b.wellFormed.of_freeze_eq hscript) hway
  rw [← Script.nextSteps_of_freeze_eq hscript]
  exact hnext a hc

/-- In a maze: two say steps follow the gate, one of them itself, and a move goes to the other. -/
theorem maze_nextSteps :
    let e := (ofScript Script.maze echoes).run [.start]
    Script.maze.Built ∧ Script.maze.nextSteps 1 = [4, 1] ∧
      (∃ between, Script.maze.Passage 1 between 1) ∧ (¬∃ between, Script.maze.Passage 1 between 5) ∧
      e.current = some 1 ∧ advance.outcome e = .ok 4 ∧ 4 ∈ Script.maze.nextSteps 1 := by
  intro e
  obtain ⟨-, -, hends, -, hadvance⟩ := nextSteps_exact Script.maze_built 1
  have hnext : Script.maze.nextSteps 1 = [4, 1] := by decide +kernel
  have hcurrent : e.current = some 1 := by decide +kernel
  have hout : advance.outcome e = .ok 4 := Act.outcome_of_toOption (by decide +kernel)
  have hkeeps : (ofScript Script.maze echoes).Keeps e :=
    (run_keeps (ofScript_fresh Script.maze_built echoes).ready [.start]).1
  have hscript : e.script.freeze = Script.maze.freeze := by
    rw [hkeeps.script, script_ofScript]
  refine ⟨Script.maze_built, hnext, (hends 1).1 ?_, mt (hends 5).2 ?_, hcurrent, hout,
    hadvance e hscript hcurrent 4 hout⟩
  · rw [hnext]
    decide
  · rw [hnext]
    decide

end Engine
end Walkthrough
