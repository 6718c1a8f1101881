/-
# The arguments of the command line

```
play SCRIPT [--state FILE] [--functions MODULE] [--settings FILE]
check SCRIPT [--settings FILE]
show-state SCRIPT FILE [--settings FILE]
```

Options may stand anywhere behind the command, with their value behind a blank or an equals sign; of an
option that is given twice the last counts. Behind two dashes there are no options.
-/

import Walkthrough.OrderedMap
import Walkthrough.Text.Search

namespace Walkthrough

/-- What the command line asks for. -/
inductive Command where
  | play (script : String) (state functions settings : Option String)
  | check (script : String) (settings : Option String)
  | showState (script state : String) (settings : Option String)
  | help
deriving DecidableEq

namespace Command

/-- Arguments sorted into options and others. -/
structure Sorted where
  options : OrderedMap String String := .empty
  others : List String := []
  help : Bool := false

/-- The name and the value of an option that is written with an equals sign. -/
def assignment? (argument : String) : Option (String × String) :=
  (Text.splitAt? ['='] argument.toList).map fun (name, value) =>
    (String.ofList name, String.ofList value)

/-- Whether an argument is written as an option. -/
def isOption (argument : String) : Bool :=
  match argument.toList with
  | '-' :: _ :: _ => true
  | _ => false

/-- **Sorting arguments**, the names of the options given. The result is none if an option is unknown or
has no value. -/
def sort? (known : List String) (s : Sorted) : List String → Option Sorted
  | [] => some s
  | argument :: rest =>
    if argument == "--" then some { s with others := s.others ++ rest }
    else if argument == "--help" then sort? known { s with help := true } rest
    else if !isOption argument then sort? known { s with others := s.others ++ [argument] } rest
    else match assignment? argument with
      | some (name, value) =>
        if known.contains name then
          sort? known { s with options := s.options.insert name value } rest
        else none
      | none =>
        if known.contains argument then
          match rest with
          | value :: rest => sort? known { s with options := s.options.insert argument value } rest
          | [] => none
        else none

/-- The arguments of a command, of which a certain number are no options. -/
def parts? (known : List String) (make : Sorted → Option Command) (arguments : List String) :
    Option Command := do
  let s ← sort? known {} arguments
  if s.help then some .help else make s

/-- **Reading the arguments.** The result is none if they are not of a known form. -/
def ofArguments? : List String → Option Command
  | "play" :: rest =>
    parts? ["--state", "--functions", "--settings"] (fun s =>
      match s.others with
      | [script] => some (.play script (s.options.get? "--state") (s.options.get? "--functions")
          (s.options.get? "--settings"))
      | _ => none) rest
  | "check" :: rest =>
    parts? ["--settings"] (fun s =>
      match s.others with
      | [script] => some (.check script (s.options.get? "--settings"))
      | _ => none) rest
  | "show-state" :: rest =>
    parts? ["--settings"] (fun s =>
      match s.others with
      | [script, state] => some (.showState script state (s.options.get? "--settings"))
      | _ => none) rest
  | "--help" :: _ => some .help
  | _ => none

end Command
end Walkthrough
