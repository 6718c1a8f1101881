/-
# Reading the fields of a document

Documents are written by hand, so a number may also be given as a numeral, as an integral float or as a
truth value, and a truth value by a word. Texts are never made from other values.

| field | accepts |
| --- | --- |
| number | integers, truth values, integral floats below `2^63`, numerals such as `+7`, `007`, `1_000`, `2.0` |
| flag | truth values, the numbers 0 and 1, and the words of `flagWords` in any case |
| text | texts |
| fraction | floats, integers that a float can hold, truth values |
-/

import Walkthrough.Property.Basic
import Walkthrough.Value

namespace Walkthrough
namespace Document

/-- The fields of a record, by name. -/
abbrev Fields := List (String × Value)

/-- The value of a field. -/
def field? (fields : Fields) (name : String) : Option Value :=
  (fields.find? fun f => f.1 == name).map Prod.snd

/-- An entry with a name for its key. -/
def namedEntry? (e : Value × Value) : Option (String × Value) :=
  match e.1 with
  | .text name => some (name, e.2)
  | _ => none

/-- The fields of a dictionary whose keys are all texts. -/
def record? : Value → Option Fields
  | .dict entries => entries.mapM namedEntry?
  | _ => none

/-! ## Numbers -/

/-- Blank characters around a numeral. -/
def isOuterBlank (c : Char) : Bool :=
  Text.isBlankChar c && !(0x1c ≤ c.toNat && c.toNat ≤ 0x1f)

/-- The digits of a numeral without the zeros it starts with; one zero is kept before a point, and at
the end. -/
def dropZeros? : List Char → Option (List Char)
  | [] => none
  | [c] => if c == '0' || c == '_' then some [c] else if c.isDigit then some [c] else none
  | c :: d :: rest =>
    if c == '0' || c == '_' then
      if d == '.' then some (c :: d :: rest) else dropZeros? (d :: rest)
    else if c.isDigit then some (c :: d :: rest)
    else none

/-- The whole part of a numeral whose fraction is zero, and any other numeral. -/
def dropFraction (cs : List Char) : List Char :=
  match cs.dropWhile (· != '.') with
  | '.' :: fraction => if fraction.all (· == '0') then cs.takeWhile (· != '.') else cs
  | _ => cs

/-- A numeral without its underscores: none at its ends, and never two in a row. -/
def dropUnderscores (cs : List Char) : List Char :=
  if cs.head? == some '_' || cs.getLast? == some '_' || Text.occursIn ['_', '_'] cs then cs
  else cs.filter (· != '_')

/-- Digits that do not start with a zero, unless they are one zero. -/
def plainDigits? (cs : List Char) : Option Nat :=
  if cs.isEmpty || !cs.all Char.isDigit || (cs.head? == some '0' && cs.length > 1) ||
      cs.length > Number.maxDigits then none
  else some (Number.takeDigits 0 0 cs).1

/-- An integer in its plain form. -/
def plainInt? : List Char → Option Int
  | '-' :: cs => (plainDigits? cs).map fun n => -n
  | cs => (plainDigits? cs).map fun n => n

/-- The plain form of a numeral. -/
def plainForm? (cs : List Char) : Option (List Char) :=
  let tidy := fun cs => dropUnderscores (dropFraction cs)
  match cs with
  | '-' :: _ => some (tidy cs)
  | '+' :: rest => if (rest.head?.map Char.isDigit).getD false then (dropZeros? rest).map tidy
    else none
  | cs => if cs.head? == some '_' then none else (dropZeros? cs).map tidy

/-- A numeral as an integer. -/
def numeral? (s : String) : Option Int :=
  let cs := Text.trimWith isOuterBlank s.toList
  (plainInt? cs).or ((plainForm? cs).bind plainInt?)

/-- A number. -/
def number? : Value → Option Int
  | .int n => some n
  | .bool b => some b.toInt
  | .float x =>
    match (Value.float x).integer? with
    | some n => if n.natAbs < 2 ^ 63 then some n else none
    | none => none
  | .text s => numeral? s
  | _ => none

/-! ## Other fields -/

/-- Words for truth values. -/
def flagWords : List (String × Bool) := [
  ("0", false), ("off", false), ("f", false), ("false", false), ("n", false), ("no", false),
  ("1", true), ("on", true), ("t", true), ("true", true), ("y", true), ("yes", true)]

/-- The truth value that a word stands for. -/
def flagWord? (s : String) : Option Bool :=
  let word := String.ofList (s.toList.map Char.toLower)
  (flagWords.find? fun e => e.1 == word).map Prod.snd

/-- A flag. -/
def flag? : Value → Option Bool
  | .text s => flagWord? s
  | v =>
    match v.integer? with
    | some 0 => some false
    | some 1 => some true
    | _ => none

/-- A text. -/
def text? : Value → Option String
  | .text s => some s
  | _ => none

/-- A text that may be left unset. -/
def optionalText? : Value → Option (Option String)
  | .unset => some none
  | .text s => some (some s)
  | _ => none

/-- A fraction. -/
def fraction? : Value → Option Float
  | .float x => some x
  | .int n => Number.ofInt? n
  | .bool b => some (if b then 1.0 else 0.0)
  | _ => none

/-- A list whose items can all be read. -/
def list? {α : Type} (item? : Value → Option α) : Value → Option (List α)
  | .list items => items.mapM item?
  | _ => none

/-- A field that may be missing, with what stands for it then. -/
def optional? {α : Type} (fields : Fields) (name : String) (missing : α) (read? : Value → Option α) :
    Option α :=
  match field? fields name with
  | none => some missing
  | some v => read? v

/-- A field that must be there. -/
def required? {α : Type} (fields : Fields) (name : String) (read? : Value → Option α) : Option α :=
  (field? fields name).bind read?

/-! ## Properties -/

/-- The type of a property, by its exact name. -/
def propertyType? (v : Value) : Option PropertyType := (text? v).bind PropertyType.ofName?

/-- A property. -/
def property? (fields : Fields) : Option Property := do
  let id ← required? fields "id" number?
  let name ← required? fields "name" text?
  let type ← optional? fields "type" .string propertyType?
  let tag ← optional? fields "tag" none optionalText?
  if h : 0 < id ∧ name ≠ "" then some ⟨id, name, type, tag, h.1, h.2⟩ else none

end Document
end Walkthrough
