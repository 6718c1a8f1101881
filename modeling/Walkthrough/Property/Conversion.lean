/-
# Converting values to the type of a property

What is written to a property is first brought into the form of its type, and refused if it has none.

| type | accepts |
| --- | --- |
| `bool` | truth values, integers (zero is false), and the words below |
| `int` | truth values, integers, integral floats, numerals |
| `double` | truth values, integers that a float can hold, floats, numerals with a point or a comma |
| `string` | every value, by its text |
| `date` | days, moments, days as text |
| `dateTime` | moments, days (at midnight), moments as text |

An unset value stays unset. Texts may have blanks around them.
-/

import Walkthrough.Error.Basic
import Walkthrough.Text.Lowercase

namespace Walkthrough
namespace PropertyType

/-- Words for true. -/
def trueWords : List String := ["y", "yes", "true", "1"]

/-- Words for false. -/
def falseWords : List String := ["n", "no", "false", "0"]

/-- The truth value that a word names, in any case. -/
def readBool? (s : String) : Option Bool :=
  let word := Text.lower (Text.strip s)
  if trueWords.contains word then some true
  else if falseWords.contains word then some false
  else none

/-- A value as a truth value. -/
def toBool? : Value → Option Bool
  | .bool b => some b
  | .int n => some (n != 0)
  | .text s => readBool? s
  | _ => none

/-- A value as an integer. -/
def toInt? : Value → Option Int
  | .text s => Number.readInt? (Text.strip s)
  | v => v.integer?

/-- A text as a float; a comma may stand for the point. -/
def readFloat? (s : String) : Option Float :=
  Number.readFloat? (String.ofList ((Text.strip s).toList.map fun c => if c == ',' then '.' else c))

/-- A value as a float. -/
def toFloat? : Value → Option Float
  | .bool b => some (if b then 1.0 else 0.0)
  | .int n => Number.ofInt? n
  | .float x => some x
  | .text s => readFloat? s
  | _ => none

/-- A value as a text, if it can be written. -/
def toText? : Value → Option String
  | .text s => some s
  | v => if v.isPrintable then some v.toText else none

/-- A value as a day. -/
def toDate? : Value → Option Calendar.Date
  | .dateTime t => some t.date
  | .date d => some d
  | .text s => Calendar.Date.read? (Text.strip s)
  | _ => none

/-- A value as a moment. -/
def toDateTime? : Value → Option Calendar.DateTime
  | .dateTime t => some t
  | .date d => some d.atMidnight
  | .text s => Calendar.DateTime.read? (Text.strip s)
  | _ => none

/-- The form of a value in a type, if there is one. -/
def form? (type : PropertyType) (v : Value) : Option Value :=
  match type with
  | bool => (toBool? v).map Value.bool
  | int => (toInt? v).map Value.int
  | double => (toFloat? v).map Value.float
  | string => (toText? v).map Value.text
  | date => (toDate? v).map Value.date
  | dateTime => (toDateTime? v).map Value.dateTime

/-- The error for a value without a form in a type: an integer beyond every float breaks off, and so
does a complaint about a value that cannot be written. -/
def refusal (type : PropertyType) (v : Value) : Error :=
  match type, v with
  | double, .int _ => .failure .overflow
  | _, _ => .raised (.value (.invalid type v))

/-- **Conversion.** Brings a value into the form of a type. -/
def convert (type : PropertyType) (v : Value) : Except Error Value :=
  match v with
  | .unset => .ok .unset
  | v =>
    match form? type v with
    | some w => .ok w
    | none => .error (refusal type v)

end PropertyType
end Walkthrough
