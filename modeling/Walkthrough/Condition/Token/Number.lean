/-
# Numbers in conditions

| form | number |
| --- | --- |
| `12`, `1_000`, `00` | an integer; only zero may start with the digit zero |
| `0x1F`, `0o17`, `0b101` | an integer in another base |
| `1.5`, `.5`, `5.`, `1e3` | a float |
| `2j`, `1.5J` | an imaginary number |

A number must not run into a name, but a keyword may follow it without a blank.
-/

import Walkthrough.Condition.Token
import Walkthrough.Number.Numeral
import Walkthrough.Text.Search

namespace Walkthrough
namespace Condition

/-- Digits in front of a text, with single underscores between them: the digits and the rest. `due`
tells that a digit has to come next. -/
def digitRun? (isDigit : Char → Bool) (due : Bool) : List Char → Option (List Char × List Char)
  | [] => if due then none else some ([], [])
  | c :: rest =>
    if isDigit c then (digitRun? isDigit false rest).map fun (run, rest) => (c :: run, rest)
    else if due then none
    else if c == '_' then digitRun? isDigit true rest
    else some ([], c :: rest)

/-- The parts of keywords that may follow a number: the first letter and what comes after it. -/
def keywordsAfterNumber : List (List Char) :=
  [['a', 'n', 'd'], ['e', 'l', 's', 'e'], ['f', 'o', 'r'], ['i', 'f'], ['i', 'n'], ['i', 's'],
    ['n', 'o', 't'], ['o', 'r']]

/-- Whether a number can end in front of a text. -/
def canEndNumber : List Char → Bool
  | [] => true
  | c :: rest =>
    keywordsAfterNumber.any (fun k => (Text.afterMark? k (c :: rest)).isSome) ||
      !(c.isAlphanum || c == '_' || c.toNat ≥ 128)

/-- A number that ends here. -/
def endNumber? (c : Constant) (rest : List Char) : Option (Constant × List Char) :=
  if canEndNumber rest then some (c, rest) else none

/-- A float or an imaginary number, its numeral given and the rest. -/
def endFloat? (numeral rest : List Char) : Option (Constant × List Char) := do
  let x ← Number.readFloat? (String.ofList numeral)
  match rest with
  | 'j' :: rest => endNumber? (.imaginary x) rest
  | 'J' :: rest => endNumber? (.imaginary x) rest
  | rest => endNumber? (.float x) rest

/-- An exponent in front of a text, with the rest: `none` if there is none. -/
def exponentRun? (rest : List Char) : Option (Option (List Char × List Char)) :=
  match rest with
  | e :: more =>
    if e == 'e' || e == 'E' then
      match more with
      | s :: d :: _ =>
        if s == '+' || s == '-' then
          if d.isDigit then
            (digitRun? Char.isDigit true more.tail).map fun (run, rest) => some (e :: s :: run, rest)
          else none
        else if s.isDigit then
          (digitRun? Char.isDigit true more).map fun (run, rest) => some (e :: run, rest)
        else some none
      | [s] =>
        if s == '+' || s == '-' then none
        else if s.isDigit then some (some ([e, s], []))
        else some none
      | [] => some none
    else some none
  | [] => some none

/-- What may follow the point of a float. -/
def fractionNumber? (whole rest : List Char) : Option (Constant × List Char) := do
  let (fraction, rest) ← if (rest.head?.map Char.isDigit).getD false
    then digitRun? Char.isDigit true rest else some ([], rest)
  let numeral := whole ++ '.' :: fraction
  match ← exponentRun? rest with
  | some (exponent, rest) => endFloat? (numeral ++ exponent) rest
  | none => endFloat? numeral rest

/-- A number that starts with a digit and is written in base ten. -/
def decimalNumber? (cs : List Char) : Option (Constant × List Char) := do
  let (whole, rest) ← digitRun? Char.isDigit true cs
  match rest with
  | '.' :: rest => fractionNumber? whole rest
  | 'j' :: _ => endFloat? whole rest
  | 'J' :: _ => endFloat? whole rest
  | rest =>
    match ← exponentRun? rest with
    | some (exponent, rest) => endFloat? (whole ++ exponent) rest
    | none =>
      let n ← Number.natIn? 10 whole
      if whole.head? == some '0' && n != 0 then none else endNumber? (.int n) rest

/-- A number in a base of two, eight or sixteen, after its mark. -/
def markedNumber? (base : Nat) (cs : List Char) : Option (Constant × List Char) := do
  let isDigit := fun c => (Number.digitBelow? base c).isSome
  let cs := match cs with
    | '_' :: rest => rest
    | cs => cs
  let (run, rest) ← digitRun? isDigit true cs
  let n ← Number.natIn? base run
  if (rest.head?.map Char.isDigit).getD false then none else endNumber? (.int n) rest

/-- The number in front of a text that starts with a digit or with a point and a digit. -/
def number? (cs : List Char) : Option (Constant × List Char) :=
  match cs with
  | '.' :: rest => fractionNumber? [] rest
  | '0' :: m :: rest =>
    match Number.markBase? m with
    | some base => markedNumber? base rest
    | none => decimalNumber? cs
  | cs => decimalNumber? cs

end Condition
end Walkthrough
