/-
# Playing a script to its end

Attempts follow one another until the script is finished. An error that another answer can mend is shown
and the step is tried again, at most `maxFailures` times in a row; with prepared answers every error
ends the run.
-/

import Walkthrough.Engine.Restore
import Walkthrough.Error.Message
import Walkthrough.Player.Attempt

namespace Walkthrough

/-- Whether another answer can mend an error. -/
def Error.isMendable : Error → Bool
  | .script (.required _ _) => true
  | .script (.conditionFailed _ _) => true
  | .script (.value _) => true
  | .script .noPreviousStep => true
  | _ => false

namespace Player

variable {σ : Type}

/-- How a script is played. -/
structure Manner where
  rich : Bool := false
  maxFailures : Int := 20

/-- Plays on after some failures in a row, in at most the given number of attempts; the result tells
whether the script is finished. -/
def playOn (c : Console σ) (m : Manner) : Nat → Int → Play σ Bool
  | 0, _ => return false
  | attempts + 1, failures => fun p =>
    match attempt c m.rich p with
    | .ok true p => .ok true p
    | .ok false p => playOn c m attempts 0 p
    | .error e p =>
      if e.isMendable && p.prepared.isNone && decide (failures + 1 < m.maxFailures) then
        let shown := "Error: " ++ e.message?.getD ""
        playOn c m attempts (failures + 1) { p with console := c.display shown p.console }
      else .error e p

/-- Starts the engine unless it is started; the result tells whether the script is finished already. -/
def begin : Play σ Bool := fun p =>
  if p.engine.isStarted then .ok false p
  else match act Engine.start p with
    | .ok _ p => .ok false p
    | .error (.script (.finished _)) p => .ok true p
    | .error e p => .error e p

/-- **Playing** a script in at most the given number of attempts. The result is the snapshot at its end,
or none if the attempts did not suffice. -/
def run (c : Console σ) (m : Manner) (attempts : Nat) : Play σ (Option Snapshot) := do
  let finished ← if ← begin then pure true else playOn c m attempts 0
  let p ← get
  return if finished then some p.engine.snapshot else none

end Player
end Walkthrough
