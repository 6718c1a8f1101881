/-
# Dates and times of day

Days of the Gregorian calendar from year 1 to year 9999, times of day to the microsecond, and moments:
a day with a time, and with an offset from universal time if it has one. That a value is in range is
part of its type.
-/

namespace Walkthrough
namespace Calendar

/-- Years with a 29th of February. -/
def isLeap (year : Nat) : Bool := year % 4 == 0 && (year % 100 != 0 || year % 400 == 0)

/-- The number of days of a month. -/
def daysIn (year month : Nat) : Nat :=
  if month == 2 then (if isLeap year then 29 else 28)
  else if month == 4 || month == 6 || month == 9 || month == 11 then 30 else 31

/-- Whether year, month and day are a day of the calendar. -/
def isDay (year month day : Nat) : Bool :=
  1 ≤ year && year ≤ 9999 && 1 ≤ month && month ≤ 12 && 1 ≤ day && day ≤ daysIn year month

/-- A day of the calendar. -/
structure Date where
  year : Nat
  month : Nat
  day : Nat
  valid : isDay year month day = true
deriving DecidableEq, Repr

/-- The day with the given numbers. -/
def Date.of? (year month day : Nat) : Option Date :=
  if h : isDay year month day = true then some ⟨year, month, day, h⟩ else none

/-- The number of days before a year, counted from the first of January of year 1. -/
def daysBeforeYear (year : Nat) : Nat :=
  let y := year - 1
  y * 365 + y / 4 - y / 100 + y / 400

/-- The number of days of a year before a month. -/
def daysBeforeMonth (year month : Nat) : Nat :=
  (List.range (month - 1)).foldl (fun days m => days + daysIn year (m + 1)) 0

/-- The number of a day, with the first of January of year 1 as day 1. -/
def ordinalOf (year month day : Nat) : Nat :=
  daysBeforeYear year + daysBeforeMonth year month + day

/-- The number of a day, with the first of January of year 1 as day 1. -/
def Date.ordinal (d : Date) : Nat := ordinalOf d.year d.month d.day

/-- Month and day of the `n`th day of a year, `n` from 1. -/
def monthDay (year : Nat) : Nat → Nat → Nat → Nat × Nat
  | 0, month, n => (month, n)
  | fuel + 1, month, n =>
    if n ≤ daysIn year month then (month, n)
    else monthDay year fuel (month + 1) (n - daysIn year month)

/-- The day with a number. -/
def Date.ofOrdinal? (n : Int) : Option Date :=
  if n < 1 then none
  else
    let n := n.toNat
    let guess := (n - 1) / 366 + 1
    let year := (List.range 30).foldl
      (fun y _ => if daysBeforeYear (y + 1) < n then y + 1 else y) guess
    let (month, day) := monthDay year 12 1 (n - daysBeforeYear year)
    Date.of? year month day

/-- The day of the week, Monday being 0. -/
def weekday (year month day : Nat) : Nat := (ordinalOf year month day + 6) % 7

/-- The number of the Monday of week 1 of a year: the week that holds its first Thursday. -/
def firstMonday (year : Nat) : Int :=
  let first := ordinalOf year 1 1
  let day := (first + 6) % 7
  let monday : Int := (first : Int) - day
  if day > 3 then monday + 7 else monday

/-- Whether a year has a week of the given number. -/
def hasWeek (year week : Nat) : Bool :=
  1 ≤ week && (week ≤ 52 || (week == 53 &&
    (weekday year 1 1 == 3 || (weekday year 1 1 == 2 && isLeap year))))

/-- The day of a week, Monday being day 1. -/
def Date.ofWeek? (year week day : Nat) : Option Date :=
  if hasWeek year week && 1 ≤ day && day ≤ 7 && 1 ≤ year then
    Date.ofOrdinal? (firstMonday year + ((week : Int) - 1) * 7 + day - 1)
  else none

/-- A time of day. -/
structure Time where
  hour : Nat
  minute : Nat
  second : Nat
  micro : Nat
  valid : hour < 24 ∧ minute < 60 ∧ second < 60 ∧ micro < 1000000
deriving DecidableEq, Repr

/-- The time with the given numbers. -/
def Time.of? (hour minute second micro : Nat) : Option Time :=
  if h : hour < 24 ∧ minute < 60 ∧ second < 60 ∧ micro < 1000000 then
    some ⟨hour, minute, second, micro, h⟩
  else none

/-- Midnight. -/
def Time.midnight : Time := ⟨0, 0, 0, 0, by decide⟩

/-- The microseconds of a day. -/
def microsPerDay : Int := 86400000000

/-- The microseconds since midnight. -/
def Time.micros (t : Time) : Int :=
  ((t.hour * 60 + t.minute) * 60 + t.second) * 1000000 + t.micro

/-- An offset from universal time, in microseconds, of less than a day. -/
structure Offset where
  micros : Int
  valid : -86400000000 < micros ∧ micros < 86400000000
deriving DecidableEq, Repr

/-- The offset of a number of microseconds. -/
def Offset.of? (micros : Int) : Option Offset :=
  if h : -86400000000 < micros ∧ micros < 86400000000 then some ⟨micros, h⟩ else none

/-- Universal time. -/
def Offset.zero : Offset := ⟨0, by decide⟩

/-- A day with a time, and with an offset from universal time if one is known. -/
structure DateTime where
  date : Date
  time : Time
  offset : Option Offset
deriving DecidableEq, Repr

/-- Midnight of a day. -/
def Date.atMidnight (d : Date) : DateTime := ⟨d, .midnight, none⟩

/-- The microseconds since the first midnight of the calendar, by the clock of the moment. -/
def DateTime.localMicros (t : DateTime) : Int :=
  ((t.date.ordinal : Int) - 1) * microsPerDay + t.time.micros

/-- The microseconds since the first midnight of the calendar, in universal time if an offset is
known. -/
def DateTime.micros (t : DateTime) : Int :=
  t.localMicros - (t.offset.map (·.micros)).getD 0

/-- The moment a number of microseconds after the first midnight of the calendar. -/
def DateTime.ofLocalMicros? (n : Int) (offset : Option Offset) : Option DateTime := do
  let date ← Date.ofOrdinal? (n.fdiv microsPerDay + 1)
  let rest := (n.fmod microsPerDay).toNat
  let seconds := rest / 1000000
  let time ← Time.of? (seconds / 3600) (seconds / 60 % 60) (seconds % 60) (rest % 1000000)
  return ⟨date, time, offset⟩

end Calendar
end Walkthrough
