/-
# Block scalars

A block scalar is the indented text after a bar, which keeps its lines, or after a greater-than sign,
which folds them. A sign behind it tells what happens to the line breaks at the end: a minus drops all,
a plus keeps all, and without a sign one is kept. A digit gives the indentation, else the first line
that is not empty does.
-/

import Walkthrough.Yaml.Cursor

namespace Walkthrough
namespace Yaml
namespace Block

/-- What happens to the line breaks at the end. -/
inductive Ending where
  | drop
  | keepOne
  | keepAll
deriving DecidableEq

/-- The sign for an ending. -/
def ending? : Scan (Option Ending) := do
  match ← Scan.peek with
  | some '+' => do
    Scan.forward 1
    return some .keepAll
  | some '-' => do
    Scan.forward 1
    return some .drop
  | _ => return none

/-- The digit for an indentation, which must not be zero. -/
def width? : Scan (Option Nat) := do
  match ← Scan.peek with
  | some c =>
    if c == '0' then Scan.refuse
    else if c.isDigit then do
      Scan.forward 1
      return some (c.toNat - 48)
    else return none
  | none => return none

/-- The sign and the digit, in either order. -/
def header : Scan (Ending × Option Nat) := do
  match ← ending? with
  | some ending =>
    let width ← width?
    if endsPart (← Scan.peek) then return (ending, width) else Scan.refuse
  | none =>
    let width ← width?
    let ending ← if width.isSome then ending? else pure none
    if endsPart (← Scan.peek) then return (ending.getD .keepOne, width) else Scan.refuse

/-- Moves over lines of spaces; the result is their breaks and the largest indentation. -/
def measure : Nat → Nat → Scan (List Char × Nat)
  | 0, widest => return ([], widest)
  | fuel + 1, widest => do
    Scan.spaces
    let widest := max widest (← get).column
    match ← Scan.lineBreak with
    | none => return ([], widest)
    | some c =>
      let (breaks, widest) ← measure fuel widest
      return (c :: breaks, widest)

/-- Moves over at most as many spaces as the indentation has. -/
def indentation (indent : Nat) : Scan Unit := do
  let c ← get
  let gap := c.rest.takeWhile (· == ' ')
  Scan.forward (min gap.length (indent - c.column))

/-- Moves over empty lines to the next text; the result is their breaks. -/
def emptyLines (indent : Nat) : Nat → Scan (List Char)
  | 0 => return []
  | fuel + 1 => do
    indentation indent
    match ← Scan.lineBreak with
    | none => return []
    | some c => return c :: (← emptyLines indent fuel)

/-- Whether the next line belongs to the scalar. -/
def continues (indent : Nat) : Scan Bool := do
  let c ← get
  return c.column == indent && !c.rest.isEmpty

/-- Whether a gap follows. -/
def atGap : Scan Bool := return (← Scan.peek).any isGap

/-- The lines from here on after some empty ones: their text, the break at its end, and the empty lines
behind it. -/
def lines (folds : Bool) (indent : Nat) :
    Nat → List Char → Scan (List Char × Option Char × List Char)
  | 0, before => return (before, none, [])
  | fuel + 1, before => do
    let indented ← atGap
    let text ← Scan.takeWhile fun c => !isBreak c
    let lineEnd ← Scan.lineBreak
    let after ← emptyLines indent ((← get).rest.length + 1)
    if ← continues indent then
      let joins := folds && lineEnd == some '\n' && !indented && !(← atGap)
      let glue := if joins then (if after.isEmpty then [' '] else []) else lineEnd.toList
      let (more, last) ← lines folds indent fuel after
      return (before ++ text ++ glue ++ more, last)
    else return (before ++ text, lineEnd, after)

/-- **A block scalar**, from its sign on, in a collection that is indented by less than `least`. -/
def scan (folds : Bool) (least : Nat) : Scan String := do
  Scan.forward 1
  let (ending, width) ← header
  Scan.endOfLine
  let least := max least 1
  let fuel := (← get).rest.length + 1
  let (before, indent) ← match width with
    | none => do
      let (breaks, widest) ← measure fuel 0
      pure (breaks, max least widest)
    | some n => do
      let indent := least + n - 1
      pure (← emptyLines indent fuel, indent)
  let (text, lineEnd, after) ←
    if ← continues indent then lines folds indent fuel before else pure ([], none, before)
  return String.ofList (match ending with
    | .drop => text
    | .keepOne => text ++ lineEnd.toList
    | .keepAll => text ++ lineEnd.toList ++ after)

end Block
end Yaml
end Walkthrough
