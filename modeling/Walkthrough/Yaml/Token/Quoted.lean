/-
# Quoted scalars

In single quotes only the quote itself is special, and is written twice. In double quotes a backslash
starts an escape, or joins a line to the next. Line breaks are folded as in plain scalars.
-/

import Walkthrough.Number.Numeral
import Walkthrough.Yaml.Token.Plain

namespace Walkthrough
namespace Yaml
namespace Quoted

/-- Escapes for one character. -/
def escapes : List (Char × Char) := [
  ('0', '\x00'), ('a', '\x07'), ('b', '\x08'), ('t', '\t'), ('\t', '\t'), ('n', '\n'), ('v', '\x0b'),
  ('f', '\x0c'), ('r', '\r'), ('e', '\x1b'), (' ', ' '), ('"', '"'), ('\\', '\\'), ('/', '/'),
  ('N', '\u0085'), ('_', '\u00a0'), ('L', '\u2028'), ('P', '\u2029')]

/-- How many digits follow an escape for a number. -/
def digitCount? (c : Char) : Option Nat :=
  match c with
  | 'x' => some 2
  | 'u' => some 4
  | 'U' => some 8
  | _ => none

/-- The character with a number; there are none from `0x110000` on. -/
def charOf (n : Nat) : Except Failure Char :=
  if n < 0x110000 then .ok (Char.ofNat n)
  else if n < 2 ^ 31 then .error (.usage .noSuchCharacter)
  else .error .overflow

/-- The number that hexadecimal digits stand for. -/
def hexNumber? (digits : List Char) : Option Nat :=
  digits.foldlM (fun n c => (Number.digitBelow? 16 c).map fun d => n * 16 + d) 0

/-- The empty lines after a line break, and the gap before the next text. -/
def emptyLines : Nat → Scan (List Char)
  | 0 => return []
  | fuel + 1 => do
    if (← get).atSeparator then Scan.refuse
    let _ ← Scan.takeWhile isGap
    match ← Scan.lineBreak with
    | none => return []
    | some c => return c :: (← emptyLines fuel)

/-- An escape after its backslash. -/
def escape : Scan (List Char) := do
  match ← Scan.peek with
  | none => Scan.refuse
  | some c =>
    if let some e := escapes.lookup c then
      Scan.forward 1
      return [e]
    else if let some count := digitCount? c then
      Scan.forward 1
      let digits := (← get).rest.take count
      if digits.length < count || !digits.all (fun d => d.toNat < 128) then Scan.refuse
      else match hexNumber? digits with
        | none => Scan.refuse
        | some n =>
          let e ← charOf n
          Scan.forward count
          return [e]
    else if isBreak c then
      let _ ← Scan.lineBreak
      emptyLines (← get).rest.length
    else Scan.refuse

/-- The gap between two texts, folded. -/
def gap : Scan (List Char) := do
  let spaces ← Scan.takeWhile isGap
  if (← Scan.peek).isNone then Scan.refuse
  match ← Scan.lineBreak with
  | none => return spaces
  | some first =>
    let more ← emptyLines ((← get).rest.length + 1)
    return Plain.folded first more

/-- The text up to the closing quote, in at most `fuel` steps. -/
def body (double : Bool) : Nat → Scan (List Char)
  | 0 => Scan.refuse
  | fuel + 1 => do
    match ← Scan.peek with
    | none => Scan.refuse
    | some c =>
      if c == (if double then '"' else '\'') then
        if !double && (← Scan.peekSecond) == some '\'' then
          Scan.forward 2
          return '\'' :: (← body double fuel)
        else
          Scan.forward 1
          return []
      else if isGap c || isBreak c then
        let text ← gap
        return text ++ (← body double fuel)
      else if double && c == '\\' then
        Scan.forward 1
        let text ← escape
        return text ++ (← body double fuel)
      else
        Scan.forward 1
        return c :: (← body double fuel)

/-- **A quoted scalar**, from its opening quote on. -/
def scan (double : Bool) : Scan String := do
  Scan.forward 1
  return String.ofList (← body double ((← get).rest.length + 1))

end Quoted
end Yaml
end Walkthrough
