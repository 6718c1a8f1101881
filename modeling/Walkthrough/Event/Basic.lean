/-
# Events

What an engine tells its listeners, with the numbers that belong to it.

| event | payload |
| --- | --- |
| `started` | |
| `finished` | the final step |
| `stepLeft` | the step |
| `stepEntered` | the step before it, if there was one, and the step |
| `nextStepReady` | the step that can be reached now |
| `choiceActivated` | the step and the choice |
-/

import Walkthrough.Value

namespace Walkthrough

/-- The kinds of events. -/
inductive EventKind where
  | started | finished | stepLeft | stepEntered | nextStepReady | choiceActivated
deriving DecidableEq, Inhabited

namespace EventKind

/-- All kinds. -/
def all : List EventKind :=
  [.started, .finished, .stepLeft, .stepEntered, .nextStepReady, .choiceActivated]

/-- The name of a kind. -/
def name : EventKind → String
  | started => "started"
  | finished => "finished"
  | stepLeft => "step_left"
  | stepEntered => "step_entered"
  | nextStepReady => "next_step_ready"
  | choiceActivated => "choice_activated"

/-- The kind with a name. -/
def ofName? (s : String) : Option EventKind := all.find? fun k => k.name == s

end EventKind

/-- What listeners are told beside the kind of an event. -/
abbrev Payload := List (String × Value)

/-- An event of an engine. -/
inductive Event where
  | started
  | finished (step : Int)
  | stepLeft (step : Int)
  | stepEntered (previous : Option Int) (step : Int)
  | nextStepReady (step : Int)
  | choiceActivated (step choice : Int)
deriving DecidableEq, Inhabited

namespace Event

/-- The kind of an event. -/
def kind : Event → EventKind
  | started => .started
  | finished _ => .finished
  | stepLeft _ => .stepLeft
  | stepEntered _ _ => .stepEntered
  | nextStepReady _ => .nextStepReady
  | choiceActivated _ _ => .choiceActivated

/-- The payload of an event. -/
def payload : Event → Payload
  | started => []
  | finished step => [("step_id", .int step)]
  | stepLeft step => [("step_id", .int step)]
  | stepEntered previous step =>
    [("prev_id", (previous.map Value.int).getD .unset), ("step_id", .int step)]
  | nextStepReady step => [("step_id", .int step)]
  | choiceActivated step choice => [("step_id", .int step), ("choice_id", .int choice)]

end Event
end Walkthrough
