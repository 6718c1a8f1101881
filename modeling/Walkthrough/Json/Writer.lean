/-
# Writing JSON

Each item and each member stands on a line of its own, four blanks deeper than what it belongs to.
Characters are written as they are, but for quotes, backslashes and control characters. Floats that are
no numbers are written as the words `NaN`, `Infinity` and `-Infinity`. Days and moments have no form
here.
-/

import Walkthrough.Error.Basic

namespace Walkthrough
namespace Json

/-- The form of one character between quotes. -/
def quoteChar (c : Char) : List Char :=
  if c == '"' then ['\\', '"']
  else if c == '\\' then ['\\', '\\']
  else if c == '\n' then ['\\', 'n']
  else if c == '\r' then ['\\', 'r']
  else if c == '\t' then ['\\', 't']
  else if c == '\x0c' then ['\\', 'f']
  else if c == '\x08' then ['\\', 'b']
  else if c.toNat < 32 then '\\' :: 'u' :: Text.hexDigits c.toNat 4
  else [c]

/-- A text between quotes. -/
def quoted (s : String) : String := String.ofList ('"' :: (s.toList.flatMap quoteChar ++ ['"']))

/-- A float. -/
def floatText (x : Float) : String :=
  match Number.parts x with
  | .nan => "NaN"
  | .infinite negative => if negative then "-Infinity" else "Infinity"
  | .finite _ => Number.floatText x

/-- A line feed and the blanks in front of a line of some level. -/
def newLine (level : Nat) : String := "\n" ++ "".pushn ' ' (4 * level)

/-- Parts between brackets, each on a line of its own. -/
def block (opening closing : String) (level : Nat) (parts : List String) : String :=
  if parts.isEmpty then opening ++ closing
  else opening ++ newLine (level + 1) ++ Text.joined ("," ++ newLine (level + 1)) parts ++
    newLine level ++ closing

mutual

/-- The text of a value on some level. -/
def write (level : Nat) : Value → Except Failure String
  | .unset => .ok "null"
  | .bool b => .ok (if b then "true" else "false")
  | .int n => if Value.isShort n then .ok (toString n) else .error (.usage .tooManyDigits)
  | .float x => .ok (floatText x)
  | .text s => .ok (quoted s)
  | .date _ => .error .wrongType
  | .dateTime _ => .error .wrongType
  | .list items => do
    let parts ← writeItems (level + 1) items
    return block "[" "]" level parts
  | .dict entries => do
    let parts ← writeEntries (level + 1) entries
    return block "\x7b" "\x7d" level parts

/-- The texts of a list of values. -/
def writeItems (level : Nat) : List Value → Except Failure (List String)
  | [] => .ok []
  | v :: rest => do
    let s ← write level v
    let more ← writeItems level rest
    return s :: more

/-- The texts of entries. -/
def writeEntries (level : Nat) : List (Value × Value) → Except Failure (List String)
  | [] => .ok []
  | (k, v) :: rest => do
    let s ← write level v
    let more ← writeEntries level rest
    return (quoted k.toText ++ ": " ++ s) :: more

end

end Json
end Walkthrough
