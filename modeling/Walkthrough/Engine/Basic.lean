/-
# Engines

An engine runs a script. It stands on a say step, or on none before it is started; it remembers from
where it entered each step of its path and which choice was selected at each step, keeps the values of
the properties, and tells its listeners what happens.

Operations are in `Act`: they may break off with an error, and what they did before that stays done.
-/

import Walkthrough.Ascending
import Walkthrough.Event.Bus
import Walkthrough.Function.Registry
import Walkthrough.Property.Store
import Walkthrough.Saved.History
import Walkthrough.Saved.TagMap
import Walkthrough.Script.Basic
import Walkthrough.Template

namespace Walkthrough

/-- A listener of an engine: it only listens, or it fails with a message. -/
structure Listener where
  label : Nat
  failure : Option String := none
deriving DecidableEq

/-- A script that is run, and the state of the run. `emitted` are all events so far, oldest first. -/
structure Engine where
  script : Script
  store : Store
  registry : Registry
  marks : Marks
  bus : Bus Listener
  emitted : List Event
  stepTags : TagMap
  propertyTags : TagMap
  current : Option Int
  cameFrom : OrderedMap Int Int
  selected : OrderedMap Int Int

/-- An operation of an engine. -/
abbrev Act := EStateM Error Engine

namespace Engine

/-- A new engine for a script, not started. The marks of its texts must not be empty. -/
def create (script : Script) (registry : Registry) (marks : Marks) : Except Error Engine :=
  if marks.opening.isEmpty || marks.closing.isEmpty then .error (.failure (.usage .emptyMark))
  else .ok {
    script, registry, marks
    store := .empty script.schema
    bus := .empty
    emitted := []
    stepTags := .empty
    propertyTags := .empty
    current := none
    cameFrom := .empty
    selected := .empty }

/-- Breaks off with a refusal. -/
def refuse {α : Type} (cause : ScriptError) : Act α := throw (.raised cause)

/-- A result as an operation without effects. -/
def lift {α : Type} : Except Error α → Act α
  | .ok a => return a
  | .error e => throw e

/-! ## What the state says -/

/-- Whether the engine stands on a step. -/
def isStarted (e : Engine) : Bool := e.current.isSome

/-- The step on which the engine stands. -/
def currentStep (e : Engine) : Option Step := e.current.bind e.script.step?

/-- The step from which the current one was entered. -/
def previous (e : Engine) : Option Int := e.current.bind e.cameFrom.get?

/-- The choice that was selected at a step. -/
def selectedChoice (e : Engine) (step : Int) : Option Choice :=
  (e.selected.get? step).bind fun choice => e.script.choice? step choice

/-- The choice that was selected at the current step. -/
def currentChoice (e : Engine) : Option Choice := e.current.bind e.selectedChoice

/-- Whether the engine stands on the first step of its path. -/
def isFirstStep (e : Engine) : Bool := e.isStarted && e.previous.isNone

/-- Whether there is no way on from here. -/
def isFinalStep (e : Engine) : Bool := (e.currentStep.map Step.isFinal).getD true

/-- Walks back along the links from a step, oldest step first, in at most `fuel` steps. It stops at a
step that was met before. -/
def walkBack (links : OrderedMap Int Int) : Nat → Option Int → List Int → List Int
  | 0, _, met => met
  | _ + 1, none, met => met
  | fuel + 1, some step, met =>
    if met.contains step then met else walkBack links fuel (links.get? step) (step :: met)

/-- The path from its first step to the current one. -/
def path (e : Engine) : List Int := walkBack e.cameFrom (e.cameFrom.size + 1) e.current []

/-- The say steps that were left behind on the way here, oldest first. -/
def history (e : Engine) : List Int := e.path.dropLast

/-- The value of a property of the script. -/
def value (e : Engine) (id : Int) : Except Error Value := e.store.get id

/-- The property with a tag. -/
def propertyOfTag (e : Engine) (tag : String) : Except Error Int :=
  match e.propertyTags.id? tag with
  | some id => .ok id
  | none => .error (.script (.propertyNotFound (.tag tag)))

/-- The value of the property with a tag. -/
def valueByTag (e : Engine) (tag : String) : Except Error Value := do
  let id ← e.propertyOfTag tag
  e.value id

/-! ## Events -/

/-- What a listener does when it is told of an event. -/
def Listener.react (l : Listener) : Option Error :=
  l.failure.map fun message => .failure (.host message)

/-- Emits an event: it is noted, and the first listener that fails breaks the operation off. -/
def emit (event : Event) : Act Unit := do
  let e ← get
  set { e with emitted := e.emitted ++ [event] }
  match (e.bus.listeners event.kind).findSome? Listener.react with
  | some error => throw error
  | none => return ()

/-! ## Texts -/

/-- A template with the values of the properties filled in. -/
def render (e : Engine) (template : String) (rich : Bool) : Except Error String :=
  Template.substitute e.marks rich (fun id => (e.value id).toOption) template

/-- The text of a say step, of the current one if none is named. -/
def stepText (e : Engine) (id : Option Int) (rich : Bool) : Except Error String :=
  match ((id.or e.current).bind e.script.step?).map Step.body with
  | some (.say text _) => e.render text rich
  | _ => .error (.raised (.state (.noSayStep id)))

/-- The text of a choice. -/
def choiceText (e : Engine) (step choice : Int) (rich : Bool) : Except Error String :=
  match e.script.choice? step choice with
  | some c => e.render c.text rich
  | none => .error (.raised (.unknownChoice step choice))

/-! ## Required properties -/

/-- The properties that a step and a choice require, in ascending order. -/
def requiredIds (step : Step) (choice : Option Choice) : List Int :=
  ascending (step.required ++ (choice.map Choice.required).getD [])

end Engine
end Walkthrough
