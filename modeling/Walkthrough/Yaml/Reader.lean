/-
# Reading YAML

The value of a text is the value of its only document. A scalar is read as its kind says. Of two entries
with equal keys the later wins, at the place of the first. The key `<<` merges the entries of another
dictionary, or of several, in front of those that are written out; what is written out wins.
-/

import Walkthrough.Text.Lowercase
import Walkthrough.Yaml.Node
import Walkthrough.Yaml.Token.Scan

namespace Walkthrough
namespace Yaml

open Calendar (Date DateTime Time Offset)

/-! ## Scalars -/

/-- A misused value. -/
def misuse {α : Type} (cause : UsageFault) : Except Failure α := .error (.usage cause)

/-- An integer in a base. -/
def intIn (base : Nat) (cs : List Char) : Except Failure Int :=
  let text := String.ofList cs
  match Number.readIntIn? base text with
  | some n => .ok n
  | none =>
    if cs.length > Number.maxDigits && cs.all Char.isDigit then misuse (.numeralTooLong cs.length)
    else misuse (.notANumber base text)

/-- An integer without its sign and without underscores. -/
def natural (cs : List Char) : Except Failure Int :=
  match cs with
  | [] => .error .badIndex
  | ['0'] => .ok 0
  | '0' :: 'b' :: digits => intIn 2 digits
  | '0' :: 'x' :: digits => intIn 16 digits
  | '0' :: _ => intIn 8 cs
  | _ => do
    let parts ← (Text.splitOnChar ':' cs).mapM (intIn 10)
    return parts.foldl (fun n part => n * 60 + part) 0

/-- The value of an integer. -/
def intValue (s : String) : Except Failure Value := do
  let (negative, cs) := Number.splitSign (s.toList.filter (· != '_'))
  let n ← natural cs
  return .int (if negative then -n else n)

/-- A fraction in base ten. -/
def fraction (cs : List Char) : Except Failure Float :=
  match Number.readFloat? (String.ofList cs) with
  | some x => .ok x
  | none => misuse (.notAFraction (String.ofList cs))

/-- The sum of parts from the last to the first, each weighing sixty times the one before it. -/
def weighed : List Float → Float → Float → Float
  | [], _, sum => sum
  | part :: parts, weight, sum => weighed parts (weight * 60) (sum + part * weight)

/-- A float without its sign and without underscores. -/
def magnitude (cs : List Char) : Except Failure Float :=
  if cs.isEmpty then .error .badIndex
  else if cs == ".inf".toList then .ok (Number.infinity false)
  else if cs == ".nan".toList then .ok Number.notANumber
  else if cs.contains ':' then do
    let parts ← (Text.splitOnChar ':' cs).mapM fraction
    return weighed parts.reverse 1 0
  else fraction cs

/-- The value of a float. -/
def floatValue (s : String) : Except Failure Value := do
  let cs := (Text.lower s).toList.filter (· != '_')
  let (negative, cs) := Number.splitSign cs
  let x ← magnitude cs
  return .float (if negative then -x else x)

/-- The value of a truth value. -/
def boolValue (s : String) : Except Failure Value :=
  let word := Text.lower s
  if word == "yes" || word == "true" || word == "on" then .ok (.bool true)
  else if word == "no" || word == "false" || word == "off" then .ok (.bool false)
  else .error .missingKey

/-- The number that digits stand for. -/
def digitsValue (cs : List Char) : Nat := (Number.takeDigits 0 0 cs).1

/-- A day of the calendar, or what is wrong with it. -/
def dateOf (year month day : Nat) : Except Failure Date :=
  match Date.of? year month day with
  | some d => .ok d
  | none =>
    if year == 0 then misuse (.badYear year)
    else if month == 0 || month > 12 then misuse .badMonth
    else misuse .badDay

/-- A time of day, or what is wrong with it. -/
def timeOf (hour minute second micro : Nat) : Except Failure Time :=
  match Time.of? hour minute second micro with
  | some t => .ok t
  | none =>
    if hour ≥ 24 then misuse .badHour
    else if minute ≥ 60 then misuse .badMinute
    else misuse .badSecond

/-- The offset of a zone. -/
def zoneOf (s : Kind.Stamp) : Except Failure (Option Offset) :=
  match s.zone with
  | none => .ok (if s.isUtc then some .zero else none)
  | some (negative, hour, minute) =>
    let micros : Int := ((digitsValue hour * 60 + digitsValue minute) * 60000000 : Nat)
    let micros := if negative then -micros else micros
    match Offset.of? micros with
    | some o => .ok (some o)
    | none => misuse (.badOffset micros)

/-- The value of a moment: a day if it has no time of day. -/
def momentValue (s : String) : Except Failure Value :=
  match Kind.stamp? s.toList with
  | none => .error .noSuchField
  | some stamp =>
    let dated := dateOf (digitsValue stamp.year) (digitsValue stamp.month) (digitsValue stamp.day)
    match stamp.clock with
    | none => dated.map .date
    | some (hour, minute, second) => do
      let micro := digitsValue ((stamp.fraction ++ List.replicate 6 '0').take 6)
      let zone ← zoneOf stamp
      let date ← dated
      let time ← timeOf (digitsValue hour) (digitsValue minute) (digitsValue second) micro
      return .dateTime ⟨date, time, zone⟩

/-- A refusal of a node that is not of its kind. -/
def misfit {α : Type} : Except Failure α := .error (.markup .construction)

/-- **The value of a scalar.** -/
def scalarValue (kind : Kind) (text : String) : Except Failure Value :=
  match kind with
  | .unset => .ok .unset
  | .bool => boolValue text
  | .int => intValue text
  | .float => floatValue text
  | .moment => momentValue text
  | .text => .ok (.text text)
  | _ => misfit

/-! ## Collections -/

/-- The entries of a dictionary with those of merged ones in front, at most `depth` deep. -/
def mergedEntries : Nat → List (Node × Node) → Except Failure (List (Node × Node))
  | 0, _ => misfit
  | depth + 1, entries => do
    let merged ← entries.mapM fun e =>
      match e with
      | (.scalar .merge _, .dict _ more) => mergedEntries depth more
      | (.scalar .merge _, .list _ items) => do
        let parts ← items.mapM fun item =>
          match item with
          | .dict _ more => mergedEntries depth more
          | _ => misfit
        return parts.reverse.flatten
      | (.scalar .merge _, _) => misfit
      | _ => return []
    let own := entries.filterMap fun e =>
      match e with
      | (.scalar .merge _, _) => none
      | (.scalar .equals text, v) => some (.scalar .text text, v)
      | e => some e
    return merged.flatten ++ own

/-- **The value of a node** that is at most `depth` deep; lists and dictionaries are no keys. -/
def valueOf : Nat → Node → Except Failure Value
  | 0, _ => misfit
  | depth + 1, n =>
    let put := fun (before : List (Value × Value)) (e : Node × Node) => do
      let k ← valueOf depth e.1
      if !k.isKey then misfit
      else
        let v ← valueOf depth e.2
        return Value.putEntry k v before
    match n with
    | .scalar kind text => scalarValue kind text
    | .list .list items => do
      return .list (← items.mapM (valueOf depth))
    | .list .pairs items => do
      return .list (← items.mapM fun item =>
        match item with
        | .dict _ [(k, v)] => do
          let k ← valueOf depth k
          let v ← valueOf depth v
          return .list [k, v]
        | _ => misfit)
    | .dict .dict entries => do
      return .dict (← (← mergedEntries depth entries).foldlM put [])
    | .dict .set entries => do
      return .list ((← (← mergedEntries depth entries).foldlM put []).map Prod.fst)
    | _ => misfit

/-! ## Texts -/

/-- Whether a character may stand in a text at all. -/
def isAllowed (c : Char) : Bool :=
  c == '\t' || c == '\n' || c == '\r' || c == '\u0085' || (' ' ≤ c && c ≤ '~') ||
    (0xa0 ≤ c.toNat && c.toNat != 0xfffe && c.toNat != 0xffff)

/-- A text with line feeds for all its line ends. -/
def unixLines : List Char → List Char
  | '\r' :: '\n' :: rest => '\n' :: unixLines rest
  | '\r' :: rest => '\n' :: unixLines rest
  | c :: rest => c :: unixLines rest
  | [] => []

/-- **Reading** the value of a text, unset if there is no document in it. -/
def read (text : String) : Except Failure Value := do
  let cs := unixLines text.toList
  if !cs.all isAllowed then throw (.markup .character)
  let (ts, stop) := tokens cs
  match ← Node.ofTokens? ts stop with
  | none => return .unset
  | some n => valueOf (ts.length + 2) n

end Yaml
end Walkthrough
