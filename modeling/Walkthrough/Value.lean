/-
# Values

What a property can hold, what a function is given and returns, and what a document contains: one
closed type. `unset` stands for a value that is missing. The keys of a dictionary are values, because a
document may use a number as a key.

A value has two texts. `toText` is the value itself where that is a text; `literal` shows its type as
well, with quotes around a text, and is what messages quote. Inside lists and dictionaries both use
the literal form. An integer of more than `Number.maxDigits` digits has neither text
(`Value.isPrintable`).
-/

import Walkthrough.Calendar.Iso
import Walkthrough.Number.Numeral
import Walkthrough.Text.Quoted
import Walkthrough.Text.Search

namespace Walkthrough

open Calendar (Date DateTime Offset)

/-- A value of a script. -/
inductive Value where
  | unset
  | bool (b : Bool)
  | int (n : Int)
  | float (x : Float)
  | text (s : String)
  | date (d : Date)
  | dateTime (t : DateTime)
  | list (items : List Value)
  | dict (entries : List (Value × Value))
deriving Inhabited

namespace Value

mutual

/-- Whether two values are the same; a float that is not a number is the same as itself. -/
def same : Value → Value → Bool
  | unset, unset => true
  | bool a, bool b => a == b
  | int a, int b => a == b
  | float a, float b => a.toBits == b.toBits
  | text a, text b => a == b
  | date a, date b => decide (a = b)
  | dateTime a, dateTime b => decide (a = b)
  | list a, list b => sameItems a b
  | dict a, dict b => sameEntries a b
  | _, _ => false

/-- Whether two lists of values are the same. -/
def sameItems : List Value → List Value → Bool
  | [], [] => true
  | a :: as, b :: bs => same a b && sameItems as bs
  | _, _ => false

/-- Whether two lists of entries are the same. -/
def sameEntries : List (Value × Value) → List (Value × Value) → Bool
  | [], [] => true
  | (k, a) :: as, (l, b) :: bs => same k l && same a b && sameEntries as bs
  | _, _ => false

end

/-- Whether a value is neither a float nor made of other values. -/
def isDiscrete : Value → Bool
  | float _ | list _ | dict _ => false
  | _ => true

/-- What is the same as a value that is no float and has no parts is this value. -/
theorem eq_of_same {v w : Value} (h : same v w = true) (discrete : w.isDiscrete = true) : v = w := by
  cases w with
  | float | list | dict => cases discrete
  | unset =>
    cases v with
    | unset => rfl
    | _ => cases h
  | bool b =>
    cases v with
    | bool a => exact congrArg bool (beq_iff_eq.1 h)
    | _ => cases h
  | int b =>
    cases v with
    | int a => exact congrArg int (beq_iff_eq.1 h)
    | _ => cases h
  | text b =>
    cases v with
    | text a => exact congrArg text (beq_iff_eq.1 h)
    | _ => cases h
  | date b =>
    cases v with
    | date a => exact congrArg date (of_decide_eq_true h)
    | _ => cases h
  | dateTime b =>
    cases v with
    | dateTime a => exact congrArg dateTime (of_decide_eq_true h)
    | _ => cases h

theorem eq_of_sameItems {vs ws : List Value} (h : sameItems vs ws = true) (discrete : ws.all isDiscrete = true) :
    vs = ws := by
  induction vs generalizing ws with
  | nil =>
    cases ws with
    | nil => rfl
    | cons w ws => cases h
  | cons v vs ih =>
    cases ws with
    | nil => cases h
    | cons w ws =>
      obtain ⟨hsame, hrest⟩ := Bool.and_eq_true_iff.1 h
      obtain ⟨hw, hws⟩ := Bool.and_eq_true_iff.1 discrete
      rw [eq_of_same hsame hw, ih hrest hws]

/-- The same for values with keys. -/
theorem eq_of_same_pairs {α : Type} {xs ys : List (α × Value)} (keys : xs.map Prod.fst = ys.map Prod.fst)
    (values : sameItems (xs.map Prod.snd) (ys.map Prod.snd) = true)
    (discrete : (ys.map Prod.snd).all isDiscrete = true) : xs = ys := by
  rw [List.zip_of_prod keys (eq_of_sameItems values discrete), ← List.zip_of_prod rfl rfl]

/-! ## The literal form -/

/-- Whether an integer is short enough to be written. -/
def isShort (n : Int) : Bool := n.natAbs < 10 ^ Number.maxDigits

/-- The literal form of a day. -/
def dateLiteral (d : Date) : String :=
  "datetime.date(" ++ Text.joined ", " [toString d.year, toString d.month, toString d.day] ++ ")"

/-- The literal form of a length of time, in days, seconds and microseconds that are not zero. -/
def spanLiteral (micros : Int) : String :=
  let days := micros.fdiv Calendar.microsPerDay
  let rest := micros.fmod Calendar.microsPerDay
  let parts := [("days", days), ("seconds", rest / 1000000), ("microseconds", rest % 1000000)]
  let shown := parts.filterMap fun p =>
    if p.2 == 0 then none else some (p.1 ++ "=" ++ toString p.2)
  "datetime.timedelta(" ++ (if shown.isEmpty then "0" else Text.joined ", " shown) ++ ")"

/-- The literal form of an offset. -/
def offsetLiteral (o : Offset) : String :=
  if o.micros == 0 then "datetime.timezone.utc"
  else "datetime.timezone(" ++ spanLiteral o.micros ++ ")"

/-- The literal form of a moment; seconds and microseconds are left out where they are zero. -/
def dateTimeLiteral (t : DateTime) : String :=
  let clock := [t.time.hour, t.time.minute] ++
    (if t.time.micro != 0 then [t.time.second, t.time.micro]
      else if t.time.second != 0 then [t.time.second] else [])
  let numbers := ([t.date.year, t.date.month, t.date.day] ++ clock).map fun n => toString n
  let offset := match t.offset with
    | none => []
    | some o => ["tzinfo=" ++ offsetLiteral o]
  "datetime.datetime(" ++ Text.joined ", " (numbers ++ offset) ++ ")"

/-- The word for a truth value. -/
def boolWord (b : Bool) : String := if b then "True" else "False"

mutual

/-- The literal form of a value, which shows its type. -/
def literal : Value → String
  | unset => "None"
  | bool b => boolWord b
  | int n => toString n
  | float x => Number.floatText x
  | text s => Text.quoted s
  | date d => dateLiteral d
  | dateTime t => dateTimeLiteral t
  | list items => "[" ++ Text.joined ", " (itemLiterals items) ++ "]"
  | dict entries => "\x7b" ++ Text.joined ", " (entryLiterals entries) ++ "\x7d"

/-- The literal forms of a list of values. -/
def itemLiterals : List Value → List String
  | [] => []
  | v :: rest => literal v :: itemLiterals rest

/-- The literal forms of entries, a colon after each key. -/
def entryLiterals : List (Value × Value) → List String
  | [] => []
  | (k, v) :: rest => (literal k ++ ": " ++ literal v) :: entryLiterals rest

end

mutual

/-- Whether every integer in a value is short enough to be written. -/
def isPrintable : Value → Bool
  | int n => isShort n
  | list items => arePrintable items
  | dict entries => entriesPrintable entries
  | _ => true

/-- Whether all values of a list can be written. -/
def arePrintable : List Value → Bool
  | [] => true
  | v :: rest => isPrintable v && arePrintable rest

/-- Whether all keys and values of a dictionary can be written. -/
def entriesPrintable : List (Value × Value) → Bool
  | [] => true
  | (k, v) :: rest => isPrintable k && isPrintable v && entriesPrintable rest

end

/-- The text of a value: a text stays as it is. -/
def toText : Value → String
  | text s => s
  | date d => d.text
  | dateTime t => t.text " "
  | v => v.literal

/-- **Blank values.** A value is blank if it is unset or a text of blanks only. -/
def isBlank : Value → Bool
  | unset => true
  | text s => Text.isBlank s
  | _ => false

/-- How a value is shown to the user: nothing for an unset value, small words for truth values,
moments to the minute, and a float that is integral without a fraction. -/
def display : Value → String
  | unset => ""
  | bool b => if b then "true" else "false"
  | dateTime t => t.minuteText
  | date d => d.text
  | float x =>
    if Number.isIntegral x then toString ((Number.trunc? x).getD 0)
    else Text.strip (Number.floatText x)
  | v => Text.strip v.toText

/-- The integer that a value stands for as a number or as the key of an entry, if there is one. -/
def integer? : Value → Option Int
  | bool b => some b.toInt
  | int n => some n
  | float x => if Number.isIntegral x then Number.trunc? x else none
  | _ => none

/-- Whether a value can be the key of an entry. -/
def isKey : Value → Bool
  | list _ => false
  | dict _ => false
  | _ => true

/-- Whether a value counts as true: numbers but zero, and what is not empty. -/
def isTruthy : Value → Bool
  | unset => false
  | bool b => b
  | int n => n != 0
  | float x => x != 0
  | text s => !s.isEmpty
  | date _ => true
  | dateTime _ => true
  | list items => !items.isEmpty
  | dict entries => !entries.isEmpty

/-! ## Keys

Numbers are equal as keys if they stand for the same integer, whatever their types; a float that is not
a number is equal to no key.
-/

/-- Whether two keys are equal. -/
def sameKey (k l : Value) : Bool :=
  match k.integer?, l.integer? with
  | some m, some n => m == n
  | none, none =>
    match k with
    | float x => !x.isNaN && same k l
    | _ => same k l
  | _, _ => false

/-- The entries after writing `v` under `k`; a key that is present keeps its place. -/
def putEntry {α : Type} (k : Value) (v : α) : List (Value × α) → List (Value × α)
  | [] => [(k, v)]
  | (l, w) :: rest => if sameKey k l then (l, v) :: rest else (l, w) :: putEntry k v rest

end Value
end Walkthrough
