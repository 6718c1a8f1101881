/-
# Terminals

A terminal has lines of input and collects its output. A question shows its default in brackets; the
answer is a line without the blanks around it, and an empty line stands for the default.
-/

import Walkthrough.Player.Basic

namespace Walkthrough

/-- The lines of input that are left, the output so far, and whether every answer is repeated in the
output. -/
structure Terminal where
  input : List String
  output : String := ""
  repeats : Bool := false

namespace Terminal

/-- Adds to the output. -/
def write (t : Terminal) (text : String) : Terminal := { t with output := t.output ++ text }

/-- A question with its default. -/
def question (prompt : String) (default : Option String) : String :=
  match default.filter (· != "") with
  | some d => prompt ++ " [" ++ d ++ "]: "
  | none => prompt ++ ": "

/-- The answer that a line gives. -/
def answered (default : Option String) (line : String) : String :=
  let text := Text.strip line
  if text.isEmpty then default.getD "" else text

/-- The next answer. -/
def answer (default : Option String) : EStateM Error Terminal String := fun t =>
  match t.input with
  | [] => .error (.failure .endOfInput) t
  | line :: rest =>
    let text := answered default line
    let t := { t with input := rest }.write "\n"
    .ok text (if t.repeats then t.write ("[VERBOSE] Answer: " ++ Text.quoted text ++ "\n") else t)

/-- The console. -/
def console : Console Terminal where
  display text t := t.write (text ++ "\n")
  ask prompt default := do
    modify fun t => t.write (question prompt default)
    answer default

end Terminal
end Walkthrough
