/-
# The command line

Reads the files that a command may need, runs it, and writes what comes of it. A command that is at the
end of its input is run again with one more line, and only what is new in its output is shown.
-/

import Walkthrough.Command.Run

namespace Walkthrough
namespace Command

/-- Adds a file or a folder to those that are known. -/
def addPath (f : Folder) (path : String) : IO Folder := do
  match Folder.place? path with
  | none => return f
  | some parts =>
    let place := Text.joined "/" parts
    try
      let text ← IO.FS.readFile path
      return { f with files := f.files.insert place text }
    catch _ =>
      try
        let _ ← IO.FS.realPath path
        return { f with folders := place :: f.folders }
      catch _ => return f

/-- The folder in which a path lies. -/
def parent (path : String) : String :=
  let parts := (Path.parts path).dropLast
  (if Path.isAbsolute path then "/" else "./") ++ Text.joined "/" parts

/-- Adds what is at some paths and the folders in which they lie. -/
def addPaths (f : Folder) (paths : List String) : IO Folder := do
  let f ← paths.foldlM addPath f
  (paths.map parent).foldlM addPath f

/-- Runs a command with more and more lines of input until it does not wait for another one. -/
partial def converse (run : List String → Outcome) (lines : List String) (shown : Nat) :
    IO Outcome := do
  let outcome := run lines
  let out ← IO.getStdout
  out.putStr (String.ofList (outcome.output.toList.drop shown))
  out.flush
  match outcome.ending with
  | .inputEnded =>
    let line ← (← IO.getStdin).getLine
    if line.isEmpty then return outcome
    else converse run (lines ++ [line]) outcome.output.length
  | _ => return outcome

/-- Writes the files that a command changed. -/
def writeBack (before after : Folder) : IO Unit :=
  after.files.entries.forM fun (path, text) => do
    if before.files.get? path != some text then IO.FS.writeFile path text

/-- The variables of the environment that matter. -/
def readEnvironment : IO Settings.Environment := do
  let names := ["STEPSCRIPT_LOG_LEVEL", "STEPSCRIPT_SCRIPTS_DIR", "STEPSCRIPT_VERBOSE"]
  let values ← names.mapM fun name => return (name, ← IO.getEnv name)
  return fun name => (values.lookup name).join

end Command
end Walkthrough

open Walkthrough in
/-- Runs the command that the arguments ask for, and yields its exit code. -/
def main (arguments : List String) : IO UInt32 := do
  let environment ← Command.readEnvironment
  let known := fun (folder : Folder) => (Command.ofArguments? arguments).elim []
    (Command.paths { folder, environment, input := [] })
  let folder ← Command.addPaths ⟨.empty, []⟩ (known ⟨.empty, []⟩)
  let folder ← Command.addPaths folder (known folder)
  let run := fun input => Command.run { folder, environment, input } arguments
  let outcome ← Command.converse run [] 0
  Command.writeBack folder outcome.folder
  if let some text := outcome.complaint then IO.eprintln text
  if let .unhandled e := outcome.ending then IO.eprintln (e.message?.getD "The command failed.")
  return UInt32.ofNat outcome.ending.code
