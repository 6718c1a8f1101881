/-
# What a condition computes with

While a condition is evaluated there are more values than those of properties: complex numbers, bytes,
tuples, lengths of time, and the functions themselves.
-/

import Walkthrough.Condition.Term
import Walkthrough.Number.Shortest

namespace Walkthrough
namespace Condition

open Calendar (Date DateTime)

/-- A value inside the evaluation of a condition. -/
inductive Datum where
  | unset
  | bool (b : Bool)
  | int (n : Int)
  | float (x : Float)
  | complex (re im : Float)
  | text (s : String)
  | bytes (bs : List UInt8)
  | date (d : Date)
  | dateTime (t : DateTime)
  | span (micros : Int)
  | list (items : List Datum)
  | tuple (items : List Datum)
  | dict (entries : List (Datum × Datum))
  | builtin (b : Builtin)
  | ellipsis
deriving Inhabited

namespace Datum

mutual

/-- The value of a property inside a condition. -/
def ofValue : Value → Datum
  | .unset => unset
  | .bool b => bool b
  | .int n => int n
  | .float x => float x
  | .text s => text s
  | .date d => date d
  | .dateTime t => dateTime t
  | .list items => list (ofValues items)
  | .dict entries => dict (ofEntries entries)

/-- A list of values inside a condition. -/
def ofValues : List Value → List Datum
  | [] => []
  | v :: rest => ofValue v :: ofValues rest

/-- Entries inside a condition. -/
def ofEntries : List (Value × Value) → List (Datum × Datum)
  | [] => []
  | (k, v) :: rest => (ofValue k, ofValue v) :: ofEntries rest

end

mutual

/-- The value of a property that a datum is, if it is one. -/
def toValue? : Datum → Option Value
  | unset => some .unset
  | bool b => some (.bool b)
  | int n => some (.int n)
  | float x => some (.float x)
  | text s => some (.text s)
  | date d => some (.date d)
  | dateTime t => some (.dateTime t)
  | list items => (toValues? items).map .list
  | dict entries => (toEntries? entries).map .dict
  | _ => none

/-- The values that the items of a list are. -/
def toValues? : List Datum → Option (List Value)
  | [] => some []
  | d :: rest => do
    let v ← toValue? d
    return v :: (← toValues? rest)

/-- The entries that the entries of a dictionary are. -/
def toEntries? : List (Datum × Datum) → Option (List (Value × Value))
  | [] => some []
  | (k, d) :: rest => do
    let k ← toValue? k
    let v ← toValue? d
    return (k, v) :: (← toEntries? rest)

end

/-- A constant of a condition. -/
def ofConstant : Constant → Datum
  | .unset => unset
  | .bool b => bool b
  | .int n => int n
  | .float x => float x
  | .imaginary x => complex 0.0 x
  | .text s => text s
  | .bytes bs => bytes bs
  | .ellipsis => ellipsis

/-- Whether a value counts as true. -/
def isTruthy : Datum → Bool
  | unset => false
  | bool b => b
  | int n => n != 0
  | float x => x != 0
  | complex re im => re != 0 || im != 0
  | text s => !s.isEmpty
  | bytes bs => !bs.isEmpty
  | date _ => true
  | dateTime _ => true
  | span micros => micros != 0
  | list items => !items.isEmpty
  | tuple items => !items.isEmpty
  | dict entries => !entries.isEmpty
  | builtin _ => true
  | ellipsis => true

/-! ## Texts -/

/-- A float inside a complex number, without a fraction of zero. -/
def partText (x : Float) : String :=
  let s := (Number.floatText x).toList
  String.ofList (if s.drop (s.length - 2) == ['.', '0'] then s.take (s.length - 2) else s)

/-- The text of a complex number; a real part of zero is left out. -/
def complexText (re im : Float) : String :=
  if re == 0 && !Number.isNegative re then partText im ++ "j"
  else
    let sign := if Number.isNegative im then "" else "+"
    "(" ++ partText re ++ sign ++ partText im ++ "j)"

/-- The literal form of one byte. -/
def byteText (quote : Char) (b : UInt8) : String :=
  let c := Char.ofNat b.toNat
  if c == quote || c == '\\' then String.ofList ['\\', c]
  else if c == '\t' then "\\t"
  else if c == '\n' then "\\n"
  else if c == '\r' then "\\r"
  else if b.toNat < 32 || b.toNat ≥ 127 then
    String.ofList ('\\' :: 'x' :: Text.hexDigits b.toNat 2)
  else c.toString

/-- The literal form of bytes. -/
def bytesText (bs : List UInt8) : String :=
  let quote := Text.quoteFor (bs.map fun b => Char.ofNat b.toNat)
  "b" ++ quote.toString ++ Text.joined "" (bs.map (byteText quote)) ++ quote.toString

/-- A length of time as days and a clock. -/
def spanText (micros : Int) : String :=
  let days := micros.fdiv Calendar.microsPerDay
  let rest := (micros.fmod Calendar.microsPerDay).toNat
  let seconds := rest / 1000000
  let unit := if days.natAbs == 1 then " day, " else " days, "
  (if days == 0 then "" else toString days ++ unit) ++ toString (seconds / 3600) ++ ":" ++
    Number.padded 2 (seconds / 60 % 60) ++ ":" ++ Number.padded 2 (seconds % 60) ++
    (if rest % 1000000 == 0 then "" else "." ++ Number.padded 6 (rest % 1000000))

/-- The literal form of a function. -/
def builtinText (b : Builtin) : String :=
  match b with
  | .int | .float | .str | .bool => "<class '" ++ b.name ++ "'>"
  | _ => "<built-in function " ++ b.name ++ ">"

mutual

/-- The literal form of a value, which shows its type. -/
def literal : Datum → String
  | unset => "None"
  | bool b => Value.boolWord b
  | int n => toString n
  | float x => Number.floatText x
  | complex re im => complexText re im
  | text s => Text.quoted s
  | bytes bs => bytesText bs
  | date d => Value.dateLiteral d
  | dateTime t => Value.dateTimeLiteral t
  | span micros => Value.spanLiteral micros
  | list items => "[" ++ Text.joined ", " (literals items) ++ "]"
  | tuple items =>
    match literals items with
    | [item] => "(" ++ item ++ ",)"
    | items => "(" ++ Text.joined ", " items ++ ")"
  | dict entries => "\x7b" ++ Text.joined ", " (entryLiterals entries) ++ "\x7d"
  | builtin b => builtinText b
  | ellipsis => "Ellipsis"

/-- The literal forms of a list of values. -/
def literals : List Datum → List String
  | [] => []
  | v :: rest => literal v :: literals rest

/-- The literal forms of entries. -/
def entryLiterals : List (Datum × Datum) → List String
  | [] => []
  | (k, v) :: rest => (literal k ++ ": " ++ literal v) :: entryLiterals rest

end

mutual

/-- Whether every integer in a value is short enough to be written. -/
def isPrintable : Datum → Bool
  | int n => Value.isShort n
  | list items => arePrintable items
  | tuple items => arePrintable items
  | dict entries => entriesPrintable entries
  | _ => true

/-- Whether all values of a list can be written. -/
def arePrintable : List Datum → Bool
  | [] => true
  | v :: rest => isPrintable v && arePrintable rest

/-- Whether all entries can be written. -/
def entriesPrintable : List (Datum × Datum) → Bool
  | [] => true
  | (k, v) :: rest => isPrintable k && isPrintable v && entriesPrintable rest

end

/-- The literal form, or the fault of an integer with too many digits. -/
def literal? (v : Datum) : Except EvaluationFault String :=
  if v.isPrintable then .ok v.literal else .error .wrongValue

/-- The text of a value: a text stays as it is. -/
def text? (v : Datum) : Except EvaluationFault String :=
  match v with
  | text s => .ok s
  | date d => .ok d.text
  | dateTime t => .ok (t.text " ")
  | span micros => .ok (spanText micros)
  | v => v.literal?

/-! ## Numbers -/

/-- A value as an integer, where truth values count as one and zero. -/
def integer? : Datum → Option Int
  | bool b => some b.toInt
  | int n => some n
  | _ => none

/-- A number of any kind. -/
inductive Numeric where
  | int (n : Int)
  | float (x : Float)
  | complex (re im : Float)

/-- A value as a number. -/
def numeric? : Datum → Option Numeric
  | bool b => some (.int b.toInt)
  | int n => some (.int n)
  | float x => some (.float x)
  | complex re im => some (.complex re im)
  | _ => none

/-- The bytes that a program can address: nothing has as many items. -/
def addressSpace : Nat := 2 ^ 47

/-- An integer as a float. -/
def toFloat (n : Int) : Except EvaluationFault Float :=
  match Number.ofInt? n with
  | some x => .ok x
  | none => .error .overflow

/-- A number as a float, if it is not complex. -/
def Numeric.toFloat : Numeric → Except EvaluationFault Float
  | .int n => Datum.toFloat n
  | .float x => .ok x
  | .complex _ _ => .error .wrongType

/-- The real and the imaginary part of a number. -/
def Numeric.parts : Numeric → Except EvaluationFault (Float × Float)
  | .int n => do return (← Datum.toFloat n, 0.0)
  | .float x => .ok (x, 0.0)
  | .complex re im => .ok (re, im)

end Datum
end Condition
end Walkthrough
