/-
# Script documents

A script document is a record: the name of the script, its version and description, its properties and
its steps. Its fields are read leniently, and fields that are not known are passed over.

| record | must have | may have |
| --- | --- | --- |
| script | `name` | `version`, `description`, `properties`, `steps` |
| property | `id`, `name` | `type`, `tag` |
| step | `id` | `tag`, `say`, `function`, `first`, `defaults`, `required`, `next`, `choices` |
| function | `name`, `result` | `args`, `values` |
| rule | `goto` | `when` |
| choice | `id`, `text`, `values` | `required` |
-/

import Walkthrough.Document.Field
import Walkthrough.Script.Build

namespace Walkthrough

/-- A step of a document. -/
structure StepRecord where
  id : Int
  tag : Option String
  text : String
  call : CallDraft
  first : Bool
  defaults : OrderedMap Int Value
  required : List Int
  rules : List (Option String × Int)
  choices : List ChoiceDraft

/-- The step without what happens at it. -/
def StepRecord.draft (r : StepRecord) : StepDraft :=
  ⟨.int r.id, r.first, r.defaults, r.required, r.rules.map fun rule => (rule.1, .int rule.2)⟩

/-- A script document whose fields were read. -/
structure ScriptDocument where
  name : String
  version : Value
  description : String
  properties : List Property
  steps : List StepRecord

namespace Document

/-! ## Maps -/

/-- A dictionary with keys of one kind; of two entries with one key the later wins. -/
def map? {κ ν : Type} [DecidableEq κ] (key? : Value → Option κ) (value? : Value → Option ν) :
    Value → Option (OrderedMap κ ν)
  | .dict entries => do
    let entries ← entries.mapM fun e => do
      let k ← key? e.1
      let v ← value? e.2
      return (k, v)
    return .ofList entries
  | _ => none

/-- Values of numbered properties. -/
def numbered? : Value → Option (OrderedMap Int Value) := map? number? some

/-- A list of numbers. -/
def numbers? : Value → Option (List Int) := list? number?

/-! ## Records -/

/-- A rule of a step. -/
def rule? (v : Value) : Option (Option String × Int) := do
  let fields ← record? v
  let text ← optional? fields "when" none optionalText?
  let target ← required? fields "goto" number?
  return (text, target)

/-- A choice of a step. -/
def choice? (v : Value) : Option ChoiceDraft := do
  let fields ← record? v
  let id ← required? fields "id" number?
  let text ← required? fields "text" text?
  let values ← required? fields "values" numbered?
  let required ← optional? fields "required" [] numbers?
  return ⟨.int id, text, values, required⟩

/-- What a step calls. -/
def call? (v : Value) : Option CallDraft := do
  let fields ← record? v
  let name ← required? fields "name" text?
  let properties ← optional? fields "args" .empty (map? text? number?)
  let values ← optional? fields "values" .empty (map? text? some)
  let result ← required? fields "result" number?
  return ⟨name, some result, properties, values⟩

/-- The call of a step that calls nothing. -/
def noCall : CallDraft := ⟨"", none, .empty, .empty⟩

/-- What a step calls, if anything. -/
def optionalCall? : Value → Option CallDraft
  | .unset => some noCall
  | v => call? v

/-- A step. -/
def step? (v : Value) : Option StepRecord := do
  let fields ← record? v
  let id ← required? fields "id" number?
  let tag ← optional? fields "tag" none optionalText?
  let say ← optional? fields "say" none optionalText?
  let call ← optional? fields "function" noCall optionalCall?
  let first ← optional? fields "first" false flag?
  let defaults ← optional? fields "defaults" .empty numbered?
  let required ← optional? fields "required" [] numbers?
  let rules ← optional? fields "next" [] (list? rule?)
  let choices ← optional? fields "choices" [] (list? choice?)
  return ⟨id, tag, say.getD "", call, first, defaults, required, rules, choices⟩

/-- A version: a text or a number. -/
def version? : Value → Option Value
  | .text s => some (.text s)
  | v => (fraction? v).map Value.float

/-- A script document. -/
def script? (fields : Fields) : Option ScriptDocument := do
  let name ← required? fields "name" text?
  let version ← optional? fields "version" (.text "1") version?
  let description ← optional? fields "description" "" text?
  let properties ← optional? fields "properties" [] (list? fun v => (record? v).bind property?)
  let steps ← optional? fields "steps" [] (list? step?)
  return ⟨name, version, description, properties, steps⟩

end Document

/-- **Reading** a script document; messages name its source. -/
def ScriptDocument.read (source : String) (v : Value) : Except Error ScriptDocument :=
  match v with
  | .dict _ =>
    match Document.record? v with
    | none => .error (.failure .wrongType)
    | some fields =>
      match Document.script? fields with
      | some d => .ok d
      | none => Script.refuse (.invalidDocument source)
  | _ => Script.refuse (.notMapping source)

end Walkthrough
