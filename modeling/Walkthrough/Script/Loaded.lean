/-
# Loaded scripts

A script document becomes a script by adding its steps in order, each followed by its choices. The tags
of its properties and steps are kept beside the script and handed to every engine that runs it.
-/

import Walkthrough.Document.Script
import Walkthrough.Engine.Basic

namespace Walkthrough

/-- A script that was built from a document. -/
structure LoadedScript where
  document : ScriptDocument
  script : Script
  stepTags : TagMap
  propertyTags : TagMap

namespace LoadedScript

/-- The tags of numbers; an empty tag is none, and of two tags of a number the later wins. -/
def tagsOf (tagged : List (Int × Option String)) : Except TagFault TagMap :=
  let given := tagged.filterMap fun e => (e.2.filter (· != "")).map fun tag => (e.1, tag)
  TagMap.ofList? ((OrderedMap.ofList given).entries.map fun e => (.int e.1, e.2))

/-- The tags of the properties and of the steps of a document. -/
def tags (d : ScriptDocument) : Except TagFault (TagMap × TagMap) := do
  let properties ← tagsOf (d.properties.map fun p => (p.id, p.tag))
  let steps ← tagsOf (d.steps.map fun r => (r.id, r.tag))
  return (properties, steps)

/-- Adds choices to a step, one after the other. -/
def addChoices (step : Value) (s : Script) : List ChoiceDraft → Except Error Script
  | [] => .ok s
  | c :: rest => do
    let (s, _) ← s.addChoice step c
    addChoices step s rest

/-- Adds steps with their choices, one after the other. -/
def addSteps (s : Script) : List StepRecord → Except Error Script
  | [] => .ok s
  | r :: rest => do
    let (s, _) ← s.addStep r.text r.call r.draft
    let s ← addChoices (.int r.id) s r.choices
    addSteps s rest

/-- **Building** the script of a document. -/
def build (d : ScriptDocument) : Except Error LoadedScript := do
  let script ← (Script.ofProperties d.properties).mapError .raised
  match tags d with
  | .error cause => Script.refuse (.badTags d.name cause)
  | .ok (propertyTags, stepTags) =>
    let script ← addSteps script d.steps
    return ⟨d, script, stepTags, propertyTags⟩

/-- The script that a value read from a source stands for. -/
def ofValue (source : String) (v : Value) : Except Error LoadedScript := do
  build (← ScriptDocument.read source v)

/-- A new engine that runs the script. -/
def engine (l : LoadedScript) (registry : Registry) (marks : Marks) : Except Error Engine := do
  let e ← Engine.create l.script registry marks
  return { e with stepTags := l.stepTags, propertyTags := l.propertyTags }

end LoadedScript
end Walkthrough
