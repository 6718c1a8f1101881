/-
# Building scripts

Steps and choices are added one by one, and each addition is checked as a whole before it changes the
script. Numbers of steps, choices and targets arrive as any value, since nothing was checked before.

The checks come in a fixed order: what the step does, whether the script is closed, the number of the
step, its default values, its required properties, and last its rules.
-/

import Walkthrough.Ascending
import Walkthrough.Property.Conversion
import Walkthrough.Script.Basic

namespace Walkthrough

/-- A step as it was written down, without what happens at it. -/
structure StepDraft where
  id : Value
  first : Bool := false
  defaults : OrderedMap Int Value := .empty
  required : List Int := []
  rules : List (Option String × Value) := []

/-- A choice as it was written down. -/
structure ChoiceDraft where
  id : Value
  text : String
  values : OrderedMap Int Value
  required : List Int := []

/-- What a step calls, as it was written down. -/
structure CallDraft where
  name : String
  result : Option Int
  properties : OrderedMap String Int := .empty
  values : OrderedMap String Value := .empty

namespace Script

/-- A refusal of a definition. -/
def refuse {α : Type} (cause : DefinitionFault) : Except Error α :=
  .error (.raised (.definition cause))

/-- What is checked at a place is checked under the name of the place, which has to be written first. -/
def named (place : Place) : Except Error Unit :=
  if place.isWritable then .ok () else .error .tooManyDigits

/-- A value in the form of a property, or the refusal that says where it was written. -/
def checkedValue (s : Script) (place : Place) (id : Int) (v : Value) : Except Error Value :=
  match s.schema.get? id with
  | none => refuse (.unknownProperty place id)
  | some p =>
    match p.type.convert v with
    | .ok w => .ok w
    | .error (.script (.value (.invalid type v))) => refuse (.badValue type v place id)
    | .error e => .error e

/-- The entries of a map, checked one after the other. -/
def checkedEntries (s : Script) (place : Place) :
    List (Int × Value) → Except Error (List (Int × Value))
  | [] => .ok []
  | (id, v) :: rest => do
    let w ← s.checkedValue place id v
    let rest ← s.checkedEntries place rest
    return (id, w) :: rest

/-- Values for properties, each in the form of its property. -/
def checkedValues (s : Script) (place : Place) (values : OrderedMap Int Value) :
    Except Error (OrderedMap Int Value) := do
  let entries ← s.checkedEntries place values.entries
  return .ofList entries

/-- Numbers of properties in ascending order, all of which must be in the schema. -/
def checkedIds (s : Script) (place : Place) (ids : List Int) : Except Error (List Int) :=
  let ids := ascending ids
  match ids.find? fun id => !s.schema.contains id with
  | some id => refuse (.unknownProperty place id)
  | none => .ok ids

/-- The positive number that a value is. -/
def positive? : Value → Option Int
  | .int n => if 0 < n then some n else none
  | _ => none

/-- The predicate of the text of a condition; a blank text is no condition. -/
def checkedPredicate (s : Script) (text : Option String) : Except Error (Option Predicate) :=
  match text with
  | none => .ok none
  | some text =>
    if Text.isBlank text then .ok none
    else do
      let p ← Predicate.compile text none
      match p.propertyIds.find? fun id => !s.schema.contains id with
      | some id => .error (.script (.badCondition (.unknownProperty id) text))
      | none => return some p

/-- The rules of a step. -/
def checkedRules (s : Script) (step : Int) : List (Option String × Value) → Except Error (List Rule)
  | [] => .ok []
  | (text, target) :: rest =>
    match positive? target with
    | none => refuse (.badTarget step target)
    | some t => do
      let p ← s.checkedPredicate text
      let rest ← s.checkedRules step rest
      return ⟨t, p⟩ :: rest

/-- Adds a step that does something that was checked before. -/
def addBody (s : Script) (body : StepBody) (d : StepDraft) : Except Error (Script × Step) :=
  if s.frozen then refuse .running
  else match positive? d.id with
    | none => refuse (.badStepId d.id)
    | some id =>
      if s.hasStep id then refuse (.repeatedStep id)
      else match if d.first then s.first else none with
        | some first => refuse (.repeatedFirstStep id first)
        | none => do
          named (.step id)
          let defaults ← s.checkedValues (.step id) d.defaults
          let required ← s.checkedIds (.step id) d.required
          let rules ← s.checkedRules id d.rules
          let step : Step := ⟨id, body, d.first, defaults, required, rules⟩
          return ({ s with
            steps := s.steps.insert id step
            first := if d.first then some id else s.first }, step)

/-- Adds a step that shows a text. -/
def addSay (s : Script) (text : String) (d : StepDraft) : Except Error (Script × Step) :=
  if Text.isBlank text then refuse (.emptyStep d.id) else s.addBody (.say text []) d

/-- Adds a step that calls a function. -/
def addCall (s : Script) (c : CallDraft) (d : StepDraft) : Except Error (Script × Step) :=
  if Text.isBlank c.name then refuse (.emptyStep d.id)
  else match c.result.filter fun id => s.schema.contains id with
    | none => refuse (.noResultProperty d.id)
    | some result =>
      match c.properties.entries.find? fun e => !s.schema.contains e.2 with
      | some (argument, id) => refuse (.unknownArgument d.id argument id)
      | none => s.addBody (.call ⟨Text.strip c.name, c.properties, c.values, result⟩) d

/-- Adds a step that shows a text or calls a function, whichever is given. -/
def addStep (s : Script) (text : String) (c : CallDraft) (d : StepDraft) :
    Except Error (Script × Step) :=
  if !Text.isBlank text && !Text.isBlank c.name then refuse (.textAndFunction d.id)
  else if !Text.isBlank c.name then s.addCall c d
  else if c.result.any (· != 0) || !c.properties.isEmpty || !c.values.isEmpty then
    refuse (.functionFieldsOnSayStep d.id)
  else s.addSay text d

/-- The step that a value numbers; a value without a place among keys breaks off. -/
def lookUp (s : Script) (id : Value) : Except Error (Option Step) :=
  if id.isKey then .ok (id.integer?.bind s.step?) else .error (.failure .wrongType)

/-- The step with one more choice. -/
def withChoice (t : Step) (c : Choice) : Step :=
  match t.body with
  | .say text choices => { t with body := .say text (choices ++ [c]) }
  | .call _ => t

/-- Adds a choice to a say step. -/
def addChoice (s : Script) (step : Value) (d : ChoiceDraft) : Except Error (Script × Choice) := do
  if s.frozen then refuse .running
  else match ← s.lookUp step with
    | none => refuse (.unknownStep step)
    | some t =>
      if !t.isSay then refuse (.choiceOnFunctionStep step)
      else match positive? d.id with
        | none => refuse (.badChoiceId step d.id)
        | some id =>
          if (t.choice? id).isSome then refuse (.repeatedChoice step d.id)
          else if Text.isBlank d.text then refuse (.emptyChoiceText step d.id)
          else if d.values.isEmpty then refuse (.emptyChoiceValues step d.id)
          else
            let place := Place.choice step d.id
            named place
            let values ← s.checkedValues place d.values
            let required ← s.checkedIds place d.required
            let choice : Choice := ⟨id, d.text, values, required⟩
            return ({ s with steps := s.steps.insert t.id (withChoice t choice) }, choice)

end Script
end Walkthrough
