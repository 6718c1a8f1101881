/-
# Consoles with answers given beforehand

Such a console has a queue of answers and keeps a record of all that was shown and asked. When the queue
is empty, every answer is the default.
-/

import Walkthrough.Player.Attempt

namespace Walkthrough

/-- What passes over a console. -/
inductive Exchange where
  | shown (text : String)
  | asked (prompt : String) (default : Option String)
deriving DecidableEq

/-- The answers that are left, and what passed so far, oldest first. -/
structure Rehearsal where
  answers : List Value
  passed : List Exchange := []

namespace Rehearsal

/-- Notes what passes. -/
def note (r : Rehearsal) (x : Exchange) : Rehearsal := { r with passed := r.passed ++ [x] }

/-- The next answer as text; a silent one and a missing one stand for the default. -/
def answer (default : Option String) : EStateM Error Rehearsal String := fun r =>
  match r.answers with
  | [] => .ok (default.getD "") r
  | v :: rest =>
    let r := { r with answers := rest }
    if Player.isSilent v then .ok (default.getD "") r
    else match Player.written v with
      | .ok text => .ok text r
      | .error e => .error e r

/-- The console. -/
def console : Console Rehearsal where
  display text r := r.note (.shown text)
  ask prompt default := do
    modify fun r => r.note (.asked prompt default)
    answer default

/-- The texts that were shown. -/
def shown (r : Rehearsal) : List String :=
  r.passed.filterMap fun x =>
    match x with
    | .shown text => some text
    | .asked _ _ => none

/-- The questions that were asked. -/
def prompts (r : Rehearsal) : List String :=
  r.passed.filterMap fun x =>
    match x with
    | .shown _ => none
    | .asked prompt _ => some prompt

end Rehearsal
end Walkthrough
