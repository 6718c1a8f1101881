/-
# Running a command

A command sees a folder, the variables of the environment and the lines of its input. Its outcome is
what it wrote, the folder afterwards, and how it ended: with an exit code, or with an error that it does
not handle.

| code | meaning |
| --- | --- |
| 0 | done |
| 1 | the script or its state was refused, a check found problems, or the input ended at a question |
| 2 | the arguments are not of a known form, or there is no such script |
-/

import Walkthrough.Command.Arguments
import Walkthrough.Player.Run
import Walkthrough.Player.Terminal
import Walkthrough.Script.Graph
import Walkthrough.Settings.Basic

namespace Walkthrough
namespace Command

/-- What a command sees. -/
structure Surroundings where
  folder : Folder
  environment : Settings.Environment
  input : List String

/-- How a command ends; at the end of its input it could go on with more of it. -/
inductive Ending where
  | exit (code : Nat)
  | inputEnded
  | unhandled (error : Error)

/-- The exit code of an ending. -/
def Ending.code : Ending → Nat
  | .exit code => code
  | .inputEnded => 1
  | .unhandled _ => 1

/-- What comes of a command. -/
structure Outcome where
  ending : Ending
  output : String := ""
  complaint : Option String := none
  folder : Folder

/-- A line of output. -/
def line (text : String) : String := text ++ "\n"

/-- Why a command stops before its end, and what it complains of. -/
structure Stop where
  ending : Ending
  complaint : Option String := none

/-- The complaint about an error. -/
def complaint (before : String) (e : Error) : Option String :=
  some ("Error: " ++ before ++ e.message?.getD "")

/-- A refusal that the command tells the user of; other errors are not handled. -/
def told (before : String) (e : Error) : Stop :=
  if e.isScriptError then ⟨.exit 1, complaint before e⟩ else ⟨.unhandled e, none⟩

/-- Why loading a script stops the command. -/
def notLoaded (e : Error) : Stop :=
  match e with
  | .failure (.noScript _) => ⟨.exit 2, complaint "" e⟩
  | .failure (.noFile _) => ⟨.exit 2, complaint "" e⟩
  | e => told "" e

/-- Loads the settings and the script of a command. -/
def load (w : Surroundings) (script : String) (settings : Option String) :
    Except Stop (Settings × LoadedScript) := do
  let settings ← (Settings.load w.folder w.environment settings).mapError fun e =>
    ⟨.unhandled (.failure e), none⟩
  let stored ← (StoredScript.load w.folder settings.scripts script).mapError notLoaded
  return (settings, stored.loaded)

/-- The outcome of a command that changes no files. -/
def outcome (w : Surroundings) (r : Except Stop (Ending × String)) : Outcome :=
  match r with
  | .ok (ending, output) => ⟨ending, output, none, w.folder⟩
  | .error stop => ⟨stop.ending, "", stop.complaint, w.folder⟩

/-! ## Checking -/

/-- The problems of a script, line by line, or a word of approval. -/
def report (l : LoadedScript) : Except Stop (Ending × String) :=
  match l.script.validate with
  | .error e => .error ⟨.unhandled e, none⟩
  | .ok [] =>
    .ok (.exit 0, line ("OK: " ++ l.document.name ++ " (" ++ toString l.script.steps.size ++ " steps)"))
  | .ok problems => .ok (.exit 1, Text.joined "" (problems.map line))

/-- **Checking** a script. -/
def runCheck (w : Surroundings) (script : String) (settings : Option String) : Outcome :=
  outcome w (load w script settings >>= fun r => report r.2)

/-! ## Showing a saved state -/

/-- A step with its tag. -/
def stepLabel (tags : TagMap) (id : Int) : String :=
  match (tags.tag? id).filter (· != "") with
  | some tag => toString id ++ " (" ++ tag ++ ")"
  | none => toString id

/-- The line for a saved value. -/
def valueLine (schema : Schema) (id : Int) (v : Value) : String :=
  line ("  " ++ ((schema.get? id).map Property.name).getD (toString id) ++ ": " ++ v.display)

/-- A saved state in readable form, up to a value that cannot be written. -/
def describe (l : LoadedScript) (s : Snapshot) : Ending × String :=
  let label := stepLabel l.stepTags
  let head := line ("Current step: " ++ (s.current.map label).getD "not started") ++
    line ("History: " ++ Text.joined " -> " (s.history.map label)) ++ line "Values:"
  let values := s.values.entries
  let writable := values.takeWhile fun e => e.2.isPrintable
  let shown := head ++ Text.joined "" (writable.map fun e => valueLine l.script.schema e.1 e.2)
  if writable.length < values.length then
    (.unhandled (.failure (.usage .tooManyDigits)), shown)
  else
    let choices := s.choices.entries.map fun e => line ("  " ++ label e.1 ++ ": " ++ toString e.2)
    (.exit 0, shown ++ line "Choices:" ++ Text.joined "" choices)

/-- **Showing** a saved state. -/
def runShowState (w : Surroundings) (script state : String) (settings : Option String) : Outcome :=
  outcome w do
    let (_, l) ← load w script settings
    let text ← (w.folder.read state).mapError fun e => ⟨.unhandled (.failure e), none⟩
    let s ← (Saved.read l.stepTags l.propertyTags text).mapError fun e => told "" (.raised e)
    return describe l s

/-! ## Playing -/

/-- The functions of a named module. -/
def functions (module : Option String) : Except Error Registry :=
  match module.filter (· != "") with
  | none => .ok .empty
  | some name =>
    if name.toList.head? == some '.' then .error (.failure .wrongType)
    else match Function.modules.lookup name with
      | none => .error (.failure .noModule)
      | some fs => fs.foldlM (fun (r : Registry) f =>
          (r.register f.1 (some f.2)).mapError Error.script) .empty

/-- An engine that goes on from a saved state, if there is one. -/
def resume (w : Surroundings) (e : Engine) (state : Option String) : Except Stop Engine :=
  match state.filter w.folder.exists? with
  | none => .ok e
  | some file => do
    let text ← (w.folder.read file).mapError fun e => ⟨.unhandled (.failure e), none⟩
    match Engine.restoreText text e with
    | .ok _ e => return e
    | .error error _ => throw (told ("cannot resume from " ++ Path.normal file ++ ": ") error)

/-- The folder after a run, with the state saved if there is one to save. -/
def save (folder : Folder) (e : Engine) (state : Option String) : Except Error Folder :=
  match state.filter fun _ => e.isStarted with
  | none => .ok folder
  | some file => do
    let text ← e.toText
    (folder.write file text).mapError .failure

/-- How a run ends that an error ended. -/
def stopped : Error → Stop
  | .failure .endOfInput => ⟨.inputEnded, none⟩
  | e => told "" e

/-- The engine of a command, its settings beside it. -/
def prepareEngine (w : Surroundings) (script : String) (state module settings : Option String) :
    Except Stop (Settings × Engine) := do
  let (settings, l) ← load w script settings
  let registry ← (functions module).mapError fun e => ⟨.unhandled e, none⟩
  let e ← (l.engine registry settings.marks).mapError fun e => ⟨.unhandled e, none⟩
  let e ← resume w e state
  return (settings, e)

/-- **Playing** a script. An attempt that does not end the run takes a line of input, so there are no
more attempts than lines, and one at which the input ends. The state is saved however the run ends. -/
def runPlay (w : Surroundings) (script : String) (state module settings : Option String) : Outcome :=
  match prepareEngine w script state module settings with
  | .error stop => ⟨stop.ending, "", stop.complaint, w.folder⟩
  | .ok (settings, engine) =>
    let terminal : Terminal := { input := w.input, repeats := Settings.isVerbose w.environment }
    let run := Player.run Terminal.console { rich := settings.rich } (w.input.length + 2)
    let (stop, p) : Option Stop × Player Terminal :=
      match run { engine, console := terminal } with
      | .ok (some _) p => (none, p)
      | .ok none p => (some ⟨.inputEnded, none⟩, p)
      | .error e p => (some (stopped e), p)
    let complaint := stop.bind Stop.complaint
    match save w.folder p.engine state, stop with
    | .error e, _ => ⟨.unhandled e, p.console.output, complaint, w.folder⟩
    | .ok folder, some stop => ⟨stop.ending, p.console.output, complaint, folder⟩
    | .ok folder, none => ⟨.exit 0, p.console.output ++ line "Finished.", none, folder⟩

/-! ## All commands -/

/-- What the arguments look like. -/
def usage : String :=
  line "play SCRIPT [--state FILE] [--functions MODULE] [--settings FILE]" ++
  line "check SCRIPT [--settings FILE]" ++
  line "show-state SCRIPT FILE [--settings FILE]"

/-- **Running** the command that the arguments ask for. -/
def run (w : Surroundings) (arguments : List String) : Outcome :=
  match ofArguments? arguments with
  | none => ⟨.exit 2, "", none, w.folder⟩
  | some .help => ⟨.exit 0, usage, none, w.folder⟩
  | some (.play script state module settings) => runPlay w script state module settings
  | some (.check script settings) => runCheck w script settings
  | some (.showState script state settings) => runShowState w script state settings

/-- The file of settings that a command names. -/
def settingsFile : Command → Option String
  | .play _ _ _ settings => settings
  | .check _ settings => settings
  | .showState _ _ settings => settings
  | .help => none

/-- The paths that a command may read, as far as they can be told from the files that are known. -/
def paths (w : Surroundings) (c : Command) : List String :=
  let settings := c.settingsFile.getD Settings.defaultFile
  let base := match Settings.load w.folder w.environment c.settingsFile with
    | .ok s => s.scripts
    | .error _ => StoredScript.defaultBase
  let scriptPaths := fun (script : String) => [script, Path.inside base (script ++ ".yaml")]
  match c with
  | .play script state _ _ => settings :: scriptPaths script ++ state.toList
  | .check script _ => settings :: scriptPaths script
  | .showState script state _ => settings :: state :: scriptPaths script
  | .help => []

end Command
end Walkthrough
