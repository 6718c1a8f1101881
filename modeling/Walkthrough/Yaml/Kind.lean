/-
# Kinds of YAML nodes

A node is of the kind that its tag names. A plain scalar without a tag is of the first kind whose written
form it has:

| kind | written form |
| --- | --- |
| truth value | `yes`, `No`, `TRUE`, `off` and the like |
| float | `1.5`, `1.0e+3`, `.5`, `1:30.5`, `-.inf`, `.nan` |
| integer | `12`, `0b11`, `017`, `0x1F`, `1_000`, `1:30` |
| unset | `~`, `null`, nothing at all |
| moment | `2024-03-01`, `2024-3-1 10:20:30.5 +1:30` |

An exponent needs a point before it and a sign in it, and the parts of a number with colons are digits
in base sixty.
-/

import Walkthrough.Number.Numeral
import Walkthrough.Text.Search

namespace Walkthrough
namespace Yaml

/-- What a node stands for. -/
inductive Kind where
  | unset
  | bool
  | int
  | float
  | moment
  | merge
  | equals
  | text
  | list
  | dict
  | pairs
  | set
  | unknown
deriving DecidableEq, Inhabited

namespace Kind

/-- How the standard tags start. -/
def standard : String := "tag:yaml.org,2002:"

/-- The kinds of the standard tags. -/
def standardTags : List (String × Kind) := [
  ("null", .unset), ("bool", .bool), ("int", .int), ("float", .float), ("timestamp", .moment),
  ("str", .text), ("seq", .list), ("map", .dict), ("omap", .pairs), ("pairs", .pairs), ("set", .set)]

/-- The kind that a tag names. -/
def ofTag (tag : String) : Kind :=
  ((standardTags.find? fun e => standard ++ e.1 == tag).map Prod.snd).getD .unknown

/-! ## Written forms -/

/-- Words for truth values, in the spellings that are recognised. -/
def boolWords : List String := [
  "yes", "Yes", "YES", "no", "No", "NO", "true", "True", "TRUE", "false", "False", "FALSE",
  "on", "On", "ON", "off", "Off", "OFF"]

/-- Words for no value. -/
def unsetWords : List String := ["~", "null", "Null", "NULL", ""]

/-- A text without the sign that it starts with. -/
def dropSign (cs : List Char) : List Char := (Number.splitSign cs).2

/-- Whether a character is a digit or an underscore. -/
def isDigitLike (c : Char) : Bool := c.isDigit || c == '_'

/-- Whether a character is an octal digit or an underscore. -/
def isOctalLike (c : Char) : Bool := ('0' ≤ c && c ≤ '7') || c == '_'

/-- Whether a character is a binary digit or an underscore. -/
def isBinaryLike (c : Char) : Bool := c == '0' || c == '1' || c == '_'

/-- Whether a character is a hexadecimal digit or an underscore. -/
def isHexLike (c : Char) : Bool := (c.toNat < 128 && (Number.digitBelow? 16 c).isSome) || c == '_'

/-- Whether a part after a colon is a number below sixty. -/
def isSixtieth : List Char → Bool
  | [d] => d.isDigit
  | [t, d] => '0' ≤ t && t ≤ '5' && d.isDigit
  | _ => false

/-- Whether a text starts with a digit and has digits only. -/
def isWhole (cs : List Char) : Bool := (cs.head?.map Char.isDigit).getD false && cs.all isDigitLike

/-- Whether a text is a number with colons. -/
def isSexagesimal (cs : List Char) : Bool :=
  match Text.splitOnChar ':' cs with
  | whole :: part :: parts => isWhole whole && (part :: parts).all isSixtieth
  | _ => false

/-- Whether a text is an integer. -/
def isInt (cs : List Char) : Bool :=
  match dropSign cs with
  | '0' :: 'b' :: digits => !digits.isEmpty && digits.all isBinaryLike
  | '0' :: 'x' :: digits => !digits.isEmpty && digits.all isHexLike
  | '0' :: digits => digits.all isOctalLike
  | digits => isWhole digits || isSexagesimal digits

/-- Whether a text is empty or an exponent with a sign. -/
def isExponent : List Char → Bool
  | [] => true
  | e :: sign :: digits =>
    (e == 'e' || e == 'E') && (sign == '+' || sign == '-') && !digits.isEmpty &&
      digits.all Char.isDigit
  | _ => false

/-- Whether a text is a float. -/
def isFloat (cs : List Char) : Bool :=
  let number := dropSign cs
  let whole := number.takeWhile (· != '.')
  match number.drop whole.length with
  | '.' :: fraction =>
    if whole.isEmpty then
      (isWhole (fraction.takeWhile isDigitLike) && isExponent (fraction.dropWhile isDigitLike) &&
          number.length == cs.length) ||
        ["inf", "Inf", "INF"].contains (String.ofList fraction) ||
        (["nan", "NaN", "NAN"].contains (String.ofList fraction) && number.length == cs.length)
    else
      (isWhole whole && isExponent (fraction.dropWhile isDigitLike)) ||
        (isSexagesimal whole && fraction.all isDigitLike)
  | _ => false

/-- A moment as it is written, its time of day with the fraction and the zone, if there is one. -/
structure Stamp where
  year : List Char
  month : List Char
  day : List Char
  clock : Option (List Char × List Char × List Char) := none
  fraction : List Char := []
  isUtc : Bool := false
  zone : Option (Bool × List Char × List Char) := none

/-- The digits at the start of a text, at least `least` and at most `most`, and the rest. -/
def digits? (least most : Nat) (cs : List Char) : Option (List Char × List Char) :=
  let found := (cs.takeWhile Char.isDigit).take most
  if found.length < least then none else some (found, cs.drop found.length)

/-- The rest of a text behind a character. -/
def after? (c : Char) : List Char → Option (List Char)
  | d :: rest => if d == c then some rest else none
  | [] => none

/-- The zone at the end of a moment. -/
def zone? (s : Stamp) (cs : List Char) : Option Stamp := do
  let trimmed := cs.dropWhile fun c => c == ' ' || c == '\t'
  match trimmed with
  | [] => if cs.isEmpty then some s else none
  | ['Z'] => some { s with isUtc := true }
  | sign :: rest =>
    if sign != '+' && sign != '-' then none
    else
      let (hour, rest) ← digits? 1 2 rest
      if rest.isEmpty then some { s with zone := some (sign == '-', hour, []) }
      else
        let (minute, rest) ← digits? 2 2 (← after? ':' rest)
        if rest.isEmpty then some { s with zone := some (sign == '-', hour, minute) } else none

/-- The time of day of a moment. -/
def clock? (s : Stamp) (cs : List Char) : Option Stamp := do
  let (hour, rest) ← digits? 1 2 cs
  let (minute, rest) ← digits? 2 2 (← after? ':' rest)
  let (second, rest) ← digits? 2 2 (← after? ':' rest)
  let s := { s with clock := some (hour, minute, second) }
  match rest with
  | '.' :: rest => zone? { s with fraction := rest.takeWhile Char.isDigit } (rest.dropWhile Char.isDigit)
  | rest => zone? s rest

/-- A moment that starts with the number of a year. -/
def stamp? (cs : List Char) : Option Stamp := do
  let (year, rest) ← digits? 4 4 cs
  let (month, rest) ← digits? 1 2 (← after? '-' rest)
  let (day, rest) ← digits? 1 2 (← after? '-' rest)
  let s : Stamp := { year, month, day }
  match rest with
  | [] => some s
  | c :: tail =>
    if c == 'T' || c == 't' then clock? s tail
    else if c == ' ' || c == '\t' then clock? s (tail.dropWhile fun c => c == ' ' || c == '\t')
    else none

/-- Whether a text is a moment; a day alone has two digits for month and day. -/
def isMoment (cs : List Char) : Bool :=
  (stamp? cs).any fun s => s.clock.isSome || (s.month.length == 2 && s.day.length == 2)

/-- **The kind of a plain scalar** without a tag. -/
def ofPlain (s : String) : Kind :=
  let cs := s.toList
  if boolWords.contains s then .bool
  else if isFloat cs then .float
  else if isInt cs then .int
  else if s == "<<" then .merge
  else if unsetWords.contains s then .unset
  else if isMoment cs then .moment
  else if s == "=" then .equals
  else .text

end Kind
end Yaml
end Walkthrough
