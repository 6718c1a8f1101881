/-
# Scripts

A script is a graph of steps. A say step shows a text and may offer choices; a call step calls a host
function and writes its result to a property. The rules of a step say where to go next: the first that
holds wins, and a step without rules is final.
-/

import Walkthrough.Condition.Predicate

namespace Walkthrough

/-- A way to another step; without a predicate it is always open. -/
structure Rule where
  target : Int
  predicate : Option Predicate

/-- The text of the condition of a rule. -/
def Rule.text (r : Rule) : Option String := r.predicate.map Predicate.text

/-- An option that a say step offers: what it writes, and which properties have to be filled in after
it. -/
structure Choice where
  id : Int
  text : String
  values : OrderedMap Int Value
  required : List Int

/-- What a call step calls: the function, the properties and the values that it is given, and the
property that receives the result. -/
structure FunctionCall where
  name : String
  properties : OrderedMap String Int
  values : OrderedMap String Value
  result : Int

/-- What happens at a step. -/
inductive StepBody where
  | say (text : String) (choices : List Choice)
  | call (c : FunctionCall)

/-- A step of a script. -/
structure Step where
  id : Int
  body : StepBody
  isFirst : Bool
  defaults : OrderedMap Int Value
  required : List Int
  rules : List Rule

namespace Step

/-- Whether the step shows a text. -/
def isSay (s : Step) : Bool :=
  match s.body with
  | .say _ _ => true
  | .call _ => false

/-- Whether the step calls a function. -/
def isCall (s : Step) : Bool := !s.isSay

/-- Whether the script ends here. -/
def isFinal (s : Step) : Bool := s.rules.isEmpty

/-- The choices that the step offers. -/
def choices (s : Step) : List Choice :=
  match s.body with
  | .say _ choices => choices
  | .call _ => []

/-- The choice with a number. -/
def choice? (s : Step) (id : Int) : Option Choice := s.choices.find? fun c => c.id == id

end Step

/-- A script: the schema of its properties, its steps by number in the order in which they were added,
its first step, and whether it is closed to changes. -/
structure Script where
  schema : Schema
  steps : OrderedMap Int Step
  first : Option Int
  frozen : Bool

namespace Script

/-- The script without steps over a list of properties. -/
def ofProperties (ps : List Property) : Except ScriptError Script :=
  match Schema.ofList? ps with
  | .error id => .error (.definition (.repeatedProperty id))
  | .ok schema =>
    if schema.properties.isEmpty then .error (.definition .noProperties)
    else .ok ⟨schema, .empty, none, false⟩

/-- The step with a number. -/
def step? (s : Script) (id : Int) : Option Step := s.steps.get? id

/-- Whether there is a step with a number. -/
def hasStep (s : Script) (id : Int) : Bool := s.steps.contains id

/-- The choice with a number at a step. -/
def choice? (s : Script) (step choice : Int) : Option Choice :=
  (s.step? step).bind fun t => t.choice? choice

/-- All steps, in the order in which they were added. -/
def stepList (s : Script) : List Step := s.steps.values

/-- Closes the script to changes. -/
def freeze (s : Script) : Script := { s with frozen := true }

end Script
end Walkthrough
