/-
# Dates and times as text

Days are written `2024-03-01` and read in that form, without hyphens, or as a day of a week:
`2024-W09-5`, `2024W095`, or without the last number for the Monday of the week. Times are written
`10:30:00`, with a fraction of six digits if it is not zero, and offsets `+02:00` after the time.

Reading is more generous than writing. Between day and time stands any one character. A time may have
no colons and may end after the hour or the minute, a fraction follows a point or a comma and may
have any number of digits, of which six count, and `Z` stands for universal time.
-/

import Walkthrough.Calendar.Date
import Walkthrough.Number.Shortest

namespace Walkthrough
namespace Calendar

open Number (padded)

/-- A day as text. -/
def Date.text (d : Date) : String :=
  padded 4 d.year ++ "-" ++ padded 2 d.month ++ "-" ++ padded 2 d.day

/-- Hours and minutes of a time. -/
def Time.minuteText (t : Time) : String := padded 2 t.hour ++ ":" ++ padded 2 t.minute

/-- A time as text. -/
def Time.text (t : Time) : String :=
  t.minuteText ++ ":" ++ padded 2 t.second ++
    (if t.micro == 0 then "" else "." ++ padded 6 t.micro)

/-- An offset as text. -/
def Offset.text (o : Offset) : String :=
  let n := o.micros.natAbs
  let seconds := n / 1000000
  (if o.micros < 0 then "-" else "+") ++ padded 2 (seconds / 3600) ++ ":" ++
    padded 2 (seconds / 60 % 60) ++
    (if seconds % 60 == 0 && n % 1000000 == 0 then ""
      else ":" ++ padded 2 (seconds % 60) ++
        (if n % 1000000 == 0 then "" else "." ++ padded 6 (n % 1000000)))

/-- The offset of a moment as text. -/
def DateTime.offsetText (t : DateTime) : String := (t.offset.map Offset.text).getD ""

/-- A moment as text, with `separator` between day and time. -/
def DateTime.text (t : DateTime) (separator : String) : String :=
  t.date.text ++ separator ++ t.time.text ++ t.offsetText

/-- A moment to the minute. -/
def DateTime.minuteText (t : DateTime) : String :=
  t.date.text ++ " " ++ t.time.minuteText ++ t.offsetText

/-- A number of exactly `width` digits at the start of a text, and the rest. -/
def number? : Nat → Nat → List Char → Option (Nat × List Char)
  | 0, n, cs => some (n, cs)
  | _ + 1, _, [] => none
  | width + 1, n, c :: rest =>
    if c.isDigit then number? width (n * 10 + (c.toNat - 48)) rest else none

/-- The day at the start of a text of `length` characters; what follows the day is not looked at. -/
def day? (cs : List Char) (length : Nat) : Option Date := do
  let (year, rest) ← number? 4 0 cs
  let (separated, rest) := match rest with
    | '-' :: rest => (true, rest)
    | _ => (false, rest)
  match rest with
  | 'W' :: rest =>
    let (week, rest) ← number? 2 0 rest
    if (if separated then 8 else 7) < length then
      let rest ← if separated then afterHyphen? rest else some rest
      let (day, _) ← number? 1 0 rest
      Date.ofWeek? year week day
    else Date.ofWeek? year week 1
  | _ =>
    let (month, rest) ← number? 2 0 rest
    let rest ← if separated then afterHyphen? rest else some rest
    let (day, _) ← number? 2 0 rest
    Date.of? year month day
where
  afterHyphen? : List Char → Option (List Char)
    | '-' :: rest => some rest
    | _ => none

/-- A text that is a day. -/
def Date.read? (s : String) : Option Date :=
  let cs := s.toList
  let length := s.utf8ByteSize
  if length == 7 || length == 8 || length == 10 then day? cs length else none

/-- Where the day ends in a text that starts with one. -/
def dayLength (cs : List Char) : Nat :=
  let length := cs.length
  let isDigitAt (i : Nat) : Bool := (cs[i]?.map Char.isDigit).getD false
  if length == 7 then 7
  else if cs[4]? == some '-' then
    if cs[5]? == some 'W' then
      if length > 8 && cs[8]? == some '-' then
        if length > 10 && isDigitAt 10 then 8 else 10
      else 8
    else 10
  else if cs[4]? == some 'W' then
    let stop := 7 + ((cs.drop 7).takeWhile Char.isDigit).length
    if stop < 9 then stop else if stop % 2 == 0 then 7 else 8
  else 8

/-- Hour, minute, second and microsecond. -/
structure Parts where
  hour : Nat := 0
  minute : Nat := 0
  second : Nat := 0
  micro : Nat := 0

/-- The fraction at the end of a time, and whether nothing follows it. -/
def fraction? (parts : Parts) (cs : List Char) (stop : Nat) : Option (Parts × Bool) := do
  let width := min 6 (cs.length - stop)
  let (n, rest) ← number? width 0 cs
  let micro := n * 10 ^ (6 - width)
  return ({ parts with micro }, (rest.dropWhile Char.isDigit).isEmpty)

/-- Hours, minutes and seconds as pairs of digits, `component` of which (0 for hours) is next. The
last `stop` characters of the text belong to what follows the time. The answer tells whether the text
ended with the time. -/
def clock? (parts : Parts) (colons : Bool) (stop : Nat) :
    Nat → List Char → Option (Parts × Bool)
  | 0, cs => fraction? parts cs stop
  | left + 1, cs => do
    let component := 2 - left
    let (n, rest) ← number? 2 0 cs
    let parts : Parts :=
      if component == 0 then { parts with hour := n }
      else if component == 1 then { parts with minute := n }
      else { parts with second := n }
    let colons := if component == 0 then rest.head? == some ':' else colons
    if rest.length ≤ stop + 1 then return (parts, rest.isEmpty)
    else
      match rest with
      | c :: after =>
        if colons && c == ':' then clock? parts colons stop left after
        else if c == '.' || c == ',' then fraction? parts after stop
        else if !colons then clock? parts colons stop left rest
        else none
      | [] => return (parts, true)

/-- A time, and an offset if there is one. -/
def time? (cs : List Char) : Option (Time × Option Offset) := do
  let isZone (c : Char) : Bool := c == '+' || c == '-' || c == 'Z'
  let zone := match cs with
    | [] => []
    | _ => cs.dropWhile (!isZone ·)
  let (p, ended) ← clock? {} false zone.length 3 cs
  let time ← Time.of? p.hour p.minute p.second p.micro
  match zone with
  | [] => if ended then return (time, none) else none
  | 'Z' :: rest => if rest.isEmpty then return (time, some .zero) else none
  | sign :: rest =>
    let (z, ended) ← clock? {} false 0 3 rest
    if !ended then none
    else
      let seconds : Int := (z.hour * 60 + z.minute) * 60 + z.second
      let micros := seconds * 1000000 + z.micro
      let offset ← Offset.of? (if sign == '-' then -micros else micros)
      return (time, some offset)

/-- A text that is a moment, or a day, which stands for its midnight. -/
def DateTime.read? (s : String) : Option DateTime := do
  let cs := s.toList
  if cs.length < 7 then none
  else
    let stop := dayLength cs
    let date ← day? cs stop
    match cs.drop stop with
    | [] => return date.atMidnight
    | _ :: rest =>
      let (time, offset) ← time? rest
      return ⟨date, time, offset⟩

end Calendar
end Walkthrough
