/-
# Reading JSON

A JSON text as a value. Besides the numbers of JSON the words `NaN`, `Infinity` and `-Infinity` are
read. Of members with the same name the last wins, at the place of the first. Arrays and objects may be
nested `maxDepth` deep, and an integer may have at most `Number.maxDigits` digits.
-/

import Walkthrough.Condition.Token.Quoted
import Walkthrough.Number.Numeral
import Walkthrough.OrderedMap
import Walkthrough.Value

namespace Walkthrough
namespace Json

/-- How deep arrays and objects may be nested. -/
def maxDepth : Nat := 200

/-- Blank characters between the parts of a text. -/
def isSpace (c : Char) : Bool := c == ' ' || c == '\t' || c == '\n' || c == '\r'

/-- Drops blanks. -/
def skip (cs : List Char) : List Char := cs.dropWhile isSpace

/-! ## Numbers -/

/-- The digits in front of a text, at least one, and the rest. -/
def digits? (cs : List Char) : Option (List Char × List Char) :=
  let run := cs.takeWhile Char.isDigit
  if run.isEmpty then none else some (run, cs.dropWhile Char.isDigit)

/-- The exponent in front of a text, if there is one: the text of it and the rest. -/
def exponent? (cs : List Char) : Option (List Char × List Char) :=
  match cs with
  | e :: rest =>
    if e == 'e' || e == 'E' then
      match rest with
      | '+' :: rest => (digits? rest).map fun (run, rest) => ('e' :: run, rest)
      | '-' :: rest => (digits? rest).map fun (run, rest) => ('e' :: '-' :: run, rest)
      | rest => (digits? rest).map fun (run, rest) => ('e' :: run, rest)
    else some ([], cs)
  | [] => some ([], [])

/-- The fraction in front of a text, if there is one: the text of it and the rest. -/
def fraction? (cs : List Char) : Option (List Char × List Char) :=
  match cs with
  | '.' :: rest => (digits? rest).map fun (run, rest) => ('.' :: run, rest)
  | cs => some ([], cs)

/-- An unsigned number in front of a text, and the rest. -/
def number? (negative : Bool) (cs : List Char) : Option (Value × List Char) := do
  let (whole, rest) ← digits? cs
  if whole.head? == some '0' && whole.length > 1 then none else
  let (fraction, rest) ← fraction? rest
  let (exponent, rest) ← exponent? rest
  if fraction.isEmpty && exponent.isEmpty then
    if whole.length > Number.maxDigits then none
    else some (.int (Number.signed negative (Number.takeDigits 0 0 whole).1), rest)
  else
    let (m, x) ← Number.decimal? (whole ++ fraction ++ exponent)
    some (.float (Number.ofDecimal negative m x), rest)

/-! ## Texts -/

/-- Four digits in base sixteen in front of a text. -/
def unit? (cs : List Char) : Option (Nat × List Char) := Condition.hexNumber? 0 4 cs

/-- The character after `\u`: its number, or two numbers for one beyond the first plane. -/
def escaped? (cs : List Char) : Option (Char × List Char) := do
  let (n, rest) ← unit? cs
  if 0xD800 ≤ n && n < 0xDC00 then
    match rest with
    | '\\' :: 'u' :: rest =>
      let (low, rest) ← unit? rest
      if 0xDC00 ≤ low && low < 0xE000 then
        some (Char.ofNat (0x10000 + (n - 0xD800) * 0x400 + (low - 0xDC00)), rest)
      else none
    | _ => none
  else if 0xDC00 ≤ n && n < 0xE000 then none
  else some (Char.ofNat n, rest)

/-- What a letter after a backslash stands for. -/
def escape? : Char → Option Char
  | '"' => some '"'
  | '\\' => some '\\'
  | '/' => some '/'
  | 'b' => some '\x08'
  | 'f' => some '\x0c'
  | 'n' => some '\n'
  | 'r' => some '\r'
  | 't' => some '\t'
  | _ => none

/-- The characters up to the closing quote, in at most `fuel` steps, and the rest. -/
def characters? : Nat → List Char → Option (List Char × List Char)
  | 0, _ => none
  | _ + 1, [] => none
  | _ + 1, '"' :: rest => some ([], rest)
  | fuel + 1, '\\' :: 'u' :: rest => do
    let (c, rest) ← escaped? rest
    let (more, rest) ← characters? fuel rest
    return (c :: more, rest)
  | fuel + 1, '\\' :: c :: rest => do
    let d ← escape? c
    let (more, rest) ← characters? fuel rest
    return (d :: more, rest)
  | fuel + 1, c :: rest =>
    if c.toNat < 32 || c == '\\' then none
    else (characters? fuel rest).map fun (more, rest) => (c :: more, rest)

/-- A text after its opening quote, and the rest. -/
def text? (cs : List Char) : Option (String × List Char) :=
  (characters? (cs.length + 1) cs).map fun (s, rest) => (String.ofList s, rest)

/-! ## Values -/

/-- An object with the given members. -/
def object (members : List (String × Value)) : Value :=
  .dict ((OrderedMap.ofList members).entries.map fun e => (.text e.1, e.2))

mutual

/-- A value in front of a text without blanks before it, and the rest. `depth` more levels are
allowed. -/
def value? : Nat → Nat → List Char → Option (Value × List Char)
  | 0, _, _ => none
  | _ + 1, _, 'n' :: 'u' :: 'l' :: 'l' :: rest => some (.unset, rest)
  | _ + 1, _, 't' :: 'r' :: 'u' :: 'e' :: rest => some (.bool true, rest)
  | _ + 1, _, 'f' :: 'a' :: 'l' :: 's' :: 'e' :: rest => some (.bool false, rest)
  | _ + 1, _, 'N' :: 'a' :: 'N' :: rest => some (.float Number.notANumber, rest)
  | _ + 1, _, 'I' :: 'n' :: 'f' :: 'i' :: 'n' :: 'i' :: 't' :: 'y' :: rest =>
    some (.float (Number.infinity false), rest)
  | _ + 1, _, '-' :: 'I' :: 'n' :: 'f' :: 'i' :: 'n' :: 'i' :: 't' :: 'y' :: rest =>
    some (.float (Number.infinity true), rest)
  | _ + 1, _, '-' :: rest => number? true rest
  | _ + 1, _, '"' :: rest => (text? rest).map fun (s, rest) => (.text s, rest)
  | fuel + 1, depth, '[' :: rest =>
    match depth with
    | 0 => none
    | depth + 1 =>
      match skip rest with
      | ']' :: rest => some (.list [], rest)
      | rest => (items? fuel depth rest).map fun (items, rest) => (.list items, rest)
  | fuel + 1, depth, '\x7b' :: rest =>
    match depth with
    | 0 => none
    | depth + 1 =>
      match skip rest with
      | '\x7d' :: rest => some (.dict [], rest)
      | rest => (members? fuel depth rest).map fun (members, rest) => (object members, rest)
  | _ + 1, _, cs => number? false cs

/-- The items of an array up to its closing bracket. -/
def items? : Nat → Nat → List Char → Option (List Value × List Char)
  | 0, _, _ => none
  | fuel + 1, depth, cs => do
    let (v, rest) ← value? fuel depth cs
    match skip rest with
    | ',' :: rest =>
      let (more, rest) ← items? fuel depth (skip rest)
      return (v :: more, rest)
    | ']' :: rest => some ([v], rest)
    | _ => none

/-- The members of an object up to its closing brace. -/
def members? : Nat → Nat → List Char → Option (List (String × Value) × List Char)
  | 0, _, _ => none
  | fuel + 1, depth, cs =>
    match cs with
    | '"' :: rest => do
      let (name, rest) ← text? rest
      match skip rest with
      | ':' :: rest =>
        let (v, rest) ← value? fuel depth (skip rest)
        match skip rest with
        | ',' :: rest =>
          let (more, rest) ← members? fuel depth (skip rest)
          return ((name, v) :: more, rest)
        | '\x7d' :: rest => some ([(name, v)], rest)
        | _ => none
      | _ => none
    | _ => none

end

/-- **Reading.** The value that a whole text is. -/
def read? (s : String) : Option Value :=
  let cs := s.toList
  match value? (cs.length + 2) maxDepth (skip cs) with
  | some (v, rest) => if (skip rest).isEmpty then some v else none
  | none => none

end Json
end Walkthrough
