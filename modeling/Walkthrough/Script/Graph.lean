/-
# The graph of a script

Which say steps follow a step, where call steps are passed through, and what is wrong with the graph as
a whole.
-/

import Walkthrough.Script.Basic

namespace Walkthrough
namespace Script

/-- The targets of the rules of a step, in order. -/
def targets (s : Script) (id : Int) : List Int :=
  match s.step? id with
  | some t => t.rules.map Rule.target
  | none => []

/-- The number of rules of all steps. -/
def ruleCount (s : Script) : Nat := (s.stepList.flatMap Step.rules).length

/-- Follows targets in order, in at most `fuel` steps. `passed` are the call steps that were passed
through, `found` the say steps that were reached. -/
def follow (s : Script) : Nat → List Int → List Int → List Int → List Int
  | 0, _, _, found => found
  | _ + 1, [], _, found => found
  | fuel + 1, target :: rest, passed, found =>
    match s.step? target with
    | none => s.follow fuel rest passed found
    | some t =>
      if t.isSay then
        s.follow fuel rest passed (if found.contains target then found else found ++ [target])
      else if passed.contains target then s.follow fuel rest passed found
      else s.follow fuel (s.targets target ++ rest) (target :: passed) found

/-- **The next say steps** that one transition can lead to, in the order in which the rules reach
them. -/
def nextSteps (s : Script) (id : Int) : List Int :=
  s.follow (2 * s.ruleCount + 1) (s.targets id) [] []

/-- What is wrong with a script. -/
inductive Problem where
  | noFirstStep
  | unknownTarget (step target : Int)
  | unreachable (step : Int)
deriving DecidableEq

/-- Whether a problem can be put in words: its numbers do not have too many digits. -/
def Problem.isWritable : Problem → Bool
  | noFirstStep => true
  | unknownTarget step target => Value.isShort step && Value.isShort target
  | unreachable step => Value.isShort step

/-- A problem in words. -/
def Problem.message : Problem → String
  | noFirstStep => "First step not defined"
  | unknownTarget step target =>
    "Step " ++ toString step ++ ": condition target " ++ toString target ++ " not found"
  | unreachable step => "Step " ++ toString step ++ ": not reachable from the first step"

/-- Adds what a step leads to: the steps that are reached, and those still to be followed. -/
def spread (next : List Int) (state : List Int × List Int) : List Int × List Int :=
  next.foldl (fun (reached, pending) t =>
    if reached.contains t then (reached, pending) else (reached ++ [t], t :: pending)) state

/-- Follows all pending steps, in at most `fuel` steps. -/
def reach (s : Script) : Nat → List Int × List Int → List Int
  | 0, (reached, _) => reached
  | _ + 1, (reached, []) => reached
  | fuel + 1, (reached, id :: pending) => s.reach fuel (spread (s.nextSteps id) (reached, pending))

/-- The steps that a run from a step can stand on, and the step itself. -/
def reachable (s : Script) (first : Int) : List Int :=
  s.reach (s.steps.size + 2) ([first], [first])

/-- The rules without a target. -/
def brokenRules (s : Script) : List Problem :=
  s.stepList.flatMap fun t =>
    (t.rules.filter fun r => !s.hasStep r.target).map fun r => .unknownTarget t.id r.target

/-- The say steps that no run reaches. -/
def lostSteps (s : Script) (first : Int) : List Problem :=
  let reached := s.reachable first
  (s.stepList.filter fun t => t.isSay && !reached.contains t.id).map fun t => .unreachable t.id

/-- All that is wrong with the graph of a script; an empty list means that it is sound. -/
def problems (s : Script) : List Problem :=
  match s.first with
  | none => .noFirstStep :: s.brokenRules
  | some first => s.brokenRules ++ s.lostSteps first

/-- **Validating.** The problems of a script in words; one that cannot be put in words breaks it off. -/
def validate (s : Script) : Except Error (List String) :=
  if s.problems.all Problem.isWritable then .ok (s.problems.map Problem.message)
  else .error .tooManyDigits

end Script
end Walkthrough
