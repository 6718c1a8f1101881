/-
# Snapshots as text

A snapshot is saved as a JSON document. Steps and properties are written by their tags if there are
tags, else by their numbers, and days and moments as text. A history is written as a list of links.

Reading accepts documents that were edited by hand: codes may be numbers or texts with blanks around
them, the history may stand in any order, and unknown fields and properties without a known tag are
passed over.
-/

import Walkthrough.Document.Field
import Walkthrough.Json.Reader
import Walkthrough.Json.Writer
import Walkthrough.Saved.History
import Walkthrough.Saved.TagMap

namespace Walkthrough
namespace Saved

/-! ## Writing -/

/-- The code of a number: its tag if there are tags, else the number. -/
def code (tags : TagMap) (untagged : CodeFault) (id : Int) : Except Error String :=
  if tags.isEmpty then
    if Value.isShort id then .ok (toString id) else .error .tooManyDigits
  else match tags.tag? id with
    | some tag => .ok tag
    | none => .error (.raised (.code untagged))

/-- The code of a step, empty if there is no step. -/
def stepCode (tags : TagMap) (field : SavedField) (step : Option Int) : Except Error String :=
  match step with
  | none => .ok ""
  | some id => code tags (.untaggedStep field id) id

/-- The code of a property. -/
def propertyCode (tags : TagMap) (id : Int) : Except Error String := code tags (.untaggedProperty id) id

/-- A value as it stands in a document: days and moments are texts. -/
def plainValue : Value → Value
  | .date d => .text d.text
  | .dateTime t => .text (t.text "T")
  | v => v

/-- A record with named fields. -/
def record (fields : List (String × Value)) : Value :=
  .dict (fields.map fun f => (.text f.1, f.2))

/-- The links of a history after the step `previous`. -/
def linkRecords (tags : TagMap) (previous : Option Int) :
    List Int → Except Error (List Value)
  | [] => .ok []
  | step :: rest => do
    let code ← stepCode tags .history (some step)
    let before ← stepCode tags .history previous
    let more ← linkRecords tags (some step) rest
    return record [("step_id", .text code), ("prev_step_id", .text before)] :: more

/-- The records of values. -/
def variableRecords (tags : TagMap) : List (Int × Value) → Except Error (List Value)
  | [] => .ok []
  | (id, v) :: rest => do
    let code ← propertyCode tags id
    let more ← variableRecords tags rest
    return record [("name", .text code), ("value", plainValue v)] :: more

/-- The records of choices. -/
def choiceRecords (tags : TagMap) : List (Int × Int) → Except Error (List Value)
  | [] => .ok []
  | (step, choice) :: rest => do
    let code ← stepCode tags .choices (some step)
    let more ← choiceRecords tags rest
    return record [("step_id", .text code), ("choise", .int choice)] :: more

/-- The document of a snapshot. -/
def document (stepTags propertyTags : TagMap) (s : Snapshot) : Except Error Value := do
  let current ← stepCode stepTags .step s.current
  let history ← linkRecords stepTags none s.history
  let values ← variableRecords propertyTags s.values.entries
  let choices ← choiceRecords stepTags s.choices.entries
  return record [("step_id", .text current), ("variables", .list values),
    ("history", .list history), ("choises", .list choices)]

/-- **Writing** a snapshot. -/
def write (stepTags propertyTags : TagMap) (s : Snapshot) : Except Error String := do
  let v ← document stepTags propertyTags s
  (Json.write 0 v).mapError .failure

/-! ## The parts of a document -/

/-- A saved value. -/
structure Variable where
  name : String
  value : Value

/-- A step of a saved history and the step before it. -/
structure Link where
  step : String
  previous : String

/-- A saved choice. -/
structure Selection where
  step : String
  choice : String

/-- The parts of a saved document, its codes as texts. -/
structure Parts where
  step : String
  values : List Variable
  history : List Link
  choices : List Selection

open Document (required? optional? list? record?)

/-- A code: a text, or a number. -/
def code? : Value → Option String
  | .text s => some s
  | v => (Document.number? v).map toString

/-- A saved value. -/
def namedValue? (v : Value) : Option Variable := do
  let fields ← record? v
  let name ← required? fields "name" code?
  let value ← required? fields "value" some
  return ⟨name, value⟩

/-- A link of a history. -/
def link? (v : Value) : Option Link := do
  let fields ← record? v
  let step ← required? fields "step_id" code?
  let previous ← required? fields "prev_step_id" code?
  return ⟨step, previous⟩

/-- A saved choice. -/
def selection? (v : Value) : Option Selection := do
  let fields ← record? v
  let step ← required? fields "step_id" code?
  let choice ← required? fields "choise" code?
  return ⟨step, choice⟩

/-- The parts of a document. -/
def parts? (v : Value) : Option Parts := do
  let fields ← record? v
  let step ← required? fields "step_id" code?
  let values ← optional? fields "variables" [] (list? namedValue?)
  let history ← optional? fields "history" [] (list? link?)
  let choices ← optional? fields "choises" [] (list? selection?)
  return ⟨step, values, history, choices⟩

/-! ## Reading -/

/-- The positive number that a code is. -/
def positive? (text : String) : Option Int := (Number.readInt? text).filter fun n => 0 < n

/-- The step of a code. -/
def stepId (tags : TagMap) (field : SavedField) (code : String) : Except ScriptError Int :=
  let text := Text.strip code
  if text.isEmpty then .error (.saved (.noStepCode field))
  else if !tags.isEmpty then
    match tags.id? text with
    | some id => .ok id
    | none => .error (.code (.unknownTag field text))
  else match positive? text with
    | some id => .ok id
    | none => .error (.code (.badCode field text))

/-- The step of a code that may be blank. -/
def optionalStepId (tags : TagMap) (field : SavedField) (code : String) :
    Except ScriptError (Option Int) :=
  if Text.isBlank code then .ok none else (stepId tags field code).map some

/-- The property of a code; one with an unknown tag is passed over. -/
def propertyId (tags : TagMap) (code : String) : Except ScriptError (Option Int) :=
  let text := Text.strip code
  if text.isEmpty then .error (.saved .noVariableName)
  else if !tags.isEmpty then .ok (tags.id? text)
  else match positive? text with
    | some id => .ok (some id)
    | none => .error (.saved (.badVariableName text))

/-- The values of records, no property twice. -/
def readVariables (tags : TagMap) (values : OrderedMap Int Value) :
    List Variable → Except ScriptError (OrderedMap Int Value)
  | [] => .ok values
  | v :: rest => do
    match ← propertyId tags v.name with
    | none => readVariables tags values rest
    | some id =>
      if values.contains id then .error (.saved (.repeatedVariable v.name))
      else readVariables tags (values.insert id v.value) rest

/-- The links of records, no step twice. -/
def readLinks (tags : TagMap) (links : Links) : List Link → Except ScriptError Links
  | [] => .ok links
  | l :: rest => do
    let step ← stepId tags .history l.step
    let previous ← optionalStepId tags .history l.previous
    if links.contains step then .error (.history (.repeatedCode l.step))
    else readLinks tags (links.insert step previous) rest

/-- The choices of records; a later one of the same step wins. -/
def readChoices (tags : TagMap) (choices : OrderedMap Int Int) :
    List Selection → Except ScriptError (OrderedMap Int Int)
  | [] => .ok choices
  | c :: rest => do
    let step ← stepId tags .choices c.step
    match positive? (Text.strip c.choice) with
    | some choice => readChoices tags (choices.insert step choice) rest
    | none => .error (.saved (.badChoiceCode c.choice))

/-- The snapshot of the parts of a document. -/
def Parts.snapshot (stepTags propertyTags : TagMap) (d : Parts) :
    Except ScriptError Snapshot := do
  let current ← optionalStepId stepTags .step d.step
  let values ← readVariables propertyTags .empty d.values
  let links ← readLinks stepTags .empty d.history
  let choices ← readChoices stepTags .empty d.choices
  let history ← orderedHistory links
  return ⟨current, values, history, choices⟩

/-- **Reading** a snapshot. -/
def read (stepTags propertyTags : TagMap) (text : String) : Except ScriptError Snapshot :=
  match (Json.read? text).bind parts? with
  | none => .error (.saved .malformed)
  | some d => d.snapshot stepTags propertyTags

end Saved
end Walkthrough
