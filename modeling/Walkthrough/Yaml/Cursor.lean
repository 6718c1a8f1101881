/-
# Places in a YAML text

A cursor is the rest of a text together with the place where it starts. `Scan` is what the readers of
tokens are written in: they move a cursor forward or refuse the text.
-/

import Walkthrough.Error.Basic

namespace Walkthrough
namespace Yaml

/-- A place in a text, counted in characters; the mark of byte order has no width. -/
structure Cursor where
  rest : List Char
  index : Nat := 0
  line : Nat := 0
  column : Nat := 0

/-- Whether a character ends a line. -/
def isBreak (c : Char) : Bool := c == '\n' || c == '\u0085' || c == '\u2028' || c == '\u2029'

/-- Whether a character is a space or a tab. -/
def isGap (c : Char) : Bool := c == ' ' || c == '\t'

/-- Whether a word ends before a character, or at the end of the text. -/
def endsWord : Option Char → Bool
  | none => true
  | some c => isGap c || isBreak c

/-- Whether only a space, the end of the line or the end of the text follows. -/
def endsPart : Option Char → Bool
  | none => true
  | some c => c == ' ' || isBreak c

/-- Whether a line ends here. -/
def endsLine : Option Char → Bool
  | none => true
  | some c => isBreak c

/-- Whether a character can stand in the name of an anchor, a directive or a tag handle. -/
def isHandleChar (c : Char) : Bool := c.isAlphanum || c == '-' || c == '_'

/-- What a line break stands for: the two separators stand for themselves. -/
def breakChar (c : Char) : Char := if c == '\u2028' || c == '\u2029' then c else '\n'

namespace Cursor

/-- The cursor after one character. -/
def step (c : Cursor) : Cursor :=
  match c.rest with
  | [] => c
  | ch :: rest =>
    if isBreak ch then ⟨rest, c.index + 1, c.line + 1, 0⟩
    else if ch == '\ufeff' then ⟨rest, c.index + 1, c.line, c.column⟩
    else ⟨rest, c.index + 1, c.line, c.column + 1⟩

/-- The cursor after `n` characters. -/
def skip (c : Cursor) : Nat → Cursor
  | 0 => c
  | n + 1 => c.step.skip n

/-- Whether a line of three dashes or three points starts here. -/
def atSeparator (c : Cursor) : Bool :=
  match c.rest with
  | '-' :: '-' :: '-' :: rest => endsWord rest.head?
  | '.' :: '.' :: '.' :: rest => endsWord rest.head?
  | _ => false

end Cursor

/-- A reader of a part of a text. -/
abbrev Scan := StateT Cursor (Except Failure)

namespace Scan

/-- Refuses the text. -/
def refuse {α : Type} : Scan α := throw (.markup .token)

/-- The next character. -/
def peek : Scan (Option Char) := return (← get).rest.head?

/-- The character after the next one. -/
def peekSecond : Scan (Option Char) := return (← get).rest.tail.head?

/-- Moves over `n` characters. -/
def forward (n : Nat) : Scan Unit := modify fun c => c.skip n

/-- Moves over the characters of a class, and yields them. -/
def takeWhile (p : Char → Bool) : Scan (List Char) := do
  let text := (← get).rest.takeWhile p
  forward text.length
  return text

/-- Moves over spaces. -/
def spaces : Scan Unit := do
  let _ ← takeWhile (· == ' ')

/-- Moves over a line break, and yields what it stands for. -/
def lineBreak : Scan (Option Char) := do
  match (← peek).filter isBreak with
  | some c => do
    forward 1
    return some (breakChar c)
  | none => return none

/-- Moves over spaces and a comment to the end of the line, and over its end. -/
def endOfLine : Scan Unit := do
  spaces
  if (← peek) == some '#' then
    let _ ← takeWhile fun c => !isBreak c
  if endsLine (← peek) then
    let _ ← lineBreak
  else refuse

end Scan
end Yaml
end Walkthrough
