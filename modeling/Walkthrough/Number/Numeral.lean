/-
# Reading numerals

Integers and decimal fractions as people write them: blank characters around them, digits of any
script, single underscores between digits. Integers of more than `maxDigits` digits are not read.

| reader | accepts |
| --- | --- |
| `readInt?` | a sign and digits |
| `readIntIn?` | the same in a base from 2 to 36, with the mark `0x`, `0o` or `0b` of the base |
| `readFloat?` | a sign, digits with a point, an exponent; or a word for infinity or for no number |
-/

import Walkthrough.Text.Blank
import Walkthrough.Text.Digits
import Walkthrough.Number.Binary

namespace Walkthrough
namespace Number

/-- The greatest number of digits of an integer that is read from a numeral or written as one. -/
def maxDigits : Nat := 4300

/-- A text with the digits and blank characters of all scripts replaced by those of the Latin script.
It ends with a question mark at the first other character outside the Latin script. -/
def latinNumeral : List Char → List Char
  | [] => []
  | c :: rest =>
    if c.toNat < 127 then c :: latinNumeral rest
    else if Text.isBlankChar c then ' ' :: latinNumeral rest
    else match Text.decimalDigit? c with
      | some d => Text.digitChar d :: latinNumeral rest
      | none => ['?']

/-- The characters of a numeral: Latin, and without blank characters around them. -/
def numeral (cs : List Char) : List Char :=
  Text.trimWith Text.isNumeralBlank (if cs.all (·.toNat < 128) then cs else latinNumeral cs)

/-- The value of a digit up to `z`. -/
def digitValue? (c : Char) : Option Nat :=
  if '0' ≤ c ∧ c ≤ '9' then some (c.toNat - 48)
  else if 'a' ≤ c ∧ c ≤ 'z' then some (c.toNat - 87)
  else if 'A' ≤ c ∧ c ≤ 'Z' then some (c.toNat - 55)
  else none

/-- The value of a digit below the base. -/
def digitBelow? (base : Nat) (c : Char) : Option Nat :=
  (digitValue? c).filter (· < base)

/-- Digits with single underscores between them, the value and the number of the digits before them
given. `free` tells that the last character was no underscore. -/
def digitsFrom? (base : Nat) (value count : Nat) (free : Bool) : List Char → Option (Nat × Nat)
  | [] => if free && count > 0 then some (value, count) else none
  | c :: rest =>
    if c == '_' then if free && count > 0 then digitsFrom? base value count false rest else none
    else match digitBelow? base c with
      | some d => digitsFrom? base (value * base + d) (count + 1) true rest
      | none => none

/-- A natural number in a base, with single underscores between its digits. In a base that is not a
power of two the number of digits is limited. -/
def natIn? (base : Nat) (cs : List Char) : Option Nat :=
  match digitsFrom? base 0 0 true cs with
  | some (n, count) =>
    if count > maxDigits && !(base == 2 || base == 4 || base == 8 || base == 16 || base == 32)
    then none else some n
  | none => none

/-- The sign in front of a numeral, and the rest. -/
def splitSign : List Char → Bool × List Char
  | '-' :: rest => (true, rest)
  | '+' :: rest => (false, rest)
  | cs => (false, cs)

/-- An integer with a sign. -/
def signed (negative : Bool) (n : Nat) : Int := if negative then -n else n

/-- An integer in base ten. -/
def readInt? (s : String) : Option Int :=
  let (negative, digits) := splitSign (numeral s.toList)
  (natIn? 10 digits).map (signed negative)

/-- The base that a mark in front of a number stands for. -/
def markBase? : Char → Option Nat
  | 'x' | 'X' => some 16
  | 'o' | 'O' => some 8
  | 'b' | 'B' => some 2
  | _ => none

/-- The digits after the mark of a base, if there is one; an underscore may follow it. -/
def dropMark (base : Nat) : List Char → List Char
  | '0' :: m :: rest =>
    if markBase? m == some base then
      match rest with
      | '_' :: digits => digits
      | digits => digits
    else '0' :: m :: rest
  | cs => cs

/-- An integer in a base from 2 to 36. Base 0 stands for the base of the mark in front, and for ten
without a mark; then a number other than zero does not start with the digit zero. -/
def readIntIn? (base : Nat) (s : String) : Option Int :=
  let (negative, digits) := splitSign (numeral s.toList)
  if base == 0 then
    match digits with
    | '0' :: m :: _ =>
      match markBase? m with
      | some b => (natIn? b (dropMark b digits)).map (signed negative)
      | none => ((natIn? 10 digits).filter (· == 0)).map (signed negative)
    | _ => (natIn? 10 digits).map (signed negative)
  else (natIn? base (dropMark base digits)).map (signed negative)

/-- The numeral without its underscores, if each stands between two digits. -/
def dropUnderscores? : List Char → Option (List Char)
  | [] => some []
  | '_' :: _ => none
  | c :: '_' :: d :: rest =>
    if c.isDigit && d.isDigit then (dropUnderscores? (d :: rest)).map (c :: ·) else none
  | c :: rest => (dropUnderscores? rest).map (c :: ·)

/-- The digits in front of a list, with the value they give after `value`, their number and the
rest. -/
def takeDigits (value count : Nat) : List Char → Nat × Nat × List Char
  | [] => (value, count, [])
  | c :: rest =>
    if c.isDigit then takeDigits (value * 10 + (c.toNat - 48)) (count + 1) rest
    else (value, count, c :: rest)

/-- The exponent at the end of a numeral. -/
def exponent? : List Char → Option Int
  | [] => some 0
  | c :: rest =>
    if c == 'e' || c == 'E' then
      let (negative, digits) := splitSign rest
      match takeDigits 0 0 digits with
      | (n, count, []) => if count > 0 then some (signed negative n) else none
      | _ => none
    else none

/-- An unsigned decimal fraction with an exponent, as `m` and `x` of `m · 10^x`. -/
def decimal? (cs : List Char) : Option (Nat × Int) :=
  let (whole, before, rest) := takeDigits 0 0 cs
  let (m, after, rest) := match rest with
    | '.' :: rest => takeDigits whole 0 rest
    | _ => (whole, 0, rest)
  if before + after == 0 then none
  else (exponent? rest).map fun x => (m, x - after)

/-- Words for numbers that no digits give. -/
def wordFloat? (negative : Bool) (cs : List Char) : Option Float :=
  let word := String.ofList (cs.map Char.toLower)
  if word == "inf" || word == "infinity" then some (infinity negative)
  else if word == "nan" then some notANumber
  else none

/-- A decimal fraction, an infinity or the value that is not a number. -/
def readFloat? (s : String) : Option Float :=
  match dropUnderscores? (numeral s.toList) with
  | none => none
  | some cs =>
    let (negative, body) := splitSign cs
    match decimal? body with
    | some (m, x) => some (ofDecimal negative m x)
    | none => wordFloat? negative body

end Number
end Walkthrough
