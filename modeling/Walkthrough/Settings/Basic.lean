/-
# Settings

Settings are read from a file, and variables of the environment override what it says. A missing or
empty file says nothing.

| setting | default | variable |
| --- | --- | --- |
| `open_mark`, `close_mark` | two curly brackets | |
| `rich_text` | false | |
| `log_level` | `WARNING` | `STEPSCRIPT_LOG_LEVEL`, `STEPSCRIPT_VERBOSE` |
| `scripts_dir` | `scripts` | `STEPSCRIPT_SCRIPTS_DIR` |
-/

import Walkthrough.Document.Field
import Walkthrough.Script.Stored
import Walkthrough.Template

namespace Walkthrough

/-- The settings of the tools. -/
structure Settings where
  marks : Marks := {}
  rich : Bool := false
  logLevel : String := "WARNING"
  scripts : String := StoredScript.defaultBase

namespace Settings

/-- The file of settings if no other is named. -/
def defaultFile : String := "stepscript.yaml"

/-- The variables of the environment by name. -/
abbrev Environment := String → Option String

/-- The value of a variable that is set and not empty. -/
def given? (env : Environment) (name : String) : Option String := (env name).filter (· != "")

/-- Whether answers are repeated and all is logged. -/
def isVerbose (env : Environment) : Bool := (given? env "STEPSCRIPT_VERBOSE").isSome

/-- The fields that the environment sets; the first of two with one name counts. -/
def overrides (env : Environment) : Document.Fields :=
  (if isVerbose env then [("log_level", .text "DEBUG")] else []) ++
  ((given? env "STEPSCRIPT_LOG_LEVEL").map fun s => ("log_level", Value.text s)).toList ++
  ((given? env "STEPSCRIPT_SCRIPTS_DIR").map fun s => ("scripts_dir", Value.text s)).toList

/-- A mark, which must not be empty. -/
def mark? (v : Value) : Option String := (Document.text? v).filter (· != "")

/-- The settings of fields. -/
def ofFields? (fields : Document.Fields) : Option Settings := do
  let default : Settings := {}
  let opening ← Document.optional? fields "open_mark" default.marks.opening mark?
  let closing ← Document.optional? fields "close_mark" default.marks.closing mark?
  let rich ← Document.optional? fields "rich_text" default.rich Document.flag?
  let logLevel ← Document.optional? fields "log_level" default.logLevel Document.text?
  let scripts ← Document.optional? fields "scripts_dir" default.scripts Document.text?
  return ⟨⟨opening, closing⟩, rich, logLevel, Path.normal scripts⟩

/-- The value of a file of settings; one that counts as false says nothing. -/
def fileValue (f : Folder) (path : String) : Except Failure Value := do
  if !f.exists? path then return .dict []
  let v ← Yaml.read (← f.read path)
  return if v.isTruthy then v else .dict []

/-- **Reading the settings**, from the default file if no other is named. -/
def load (f : Folder) (env : Environment) (file : Option String) : Except Failure Settings := do
  let path := Path.normal (file.getD defaultFile)
  let v ← fileValue f path
  match v with
  | .dict _ =>
    match Document.record? v with
    | none => throw .wrongType
    | some fields =>
      match ofFields? (overrides env ++ fields) with
      | some s => return s
      | none => throw (.usage (.invalidSettings path))
  | _ => throw (.usage (.settingsNotMapping path))

end Settings
end Walkthrough
