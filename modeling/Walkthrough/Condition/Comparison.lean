/-
# Comparing values

Numbers of all kinds compare by their exact values, texts and bytes by the numbers of their characters,
lists and tuples by their first difference. Days, moments and lengths of time compare among
themselves; moments with and without an offset are never equal and cannot be put in order. Other
values are equal only if they are the same, and have no order.
-/

import Walkthrough.Condition.Datum
import Walkthrough.Text.Search

namespace Walkthrough
namespace Condition
namespace Datum

/-- Whether two numbers have the same value. -/
def Numeric.equal : Numeric → Numeric → Bool
  | .int a, .int b => a == b
  | .int a, .float b => Number.compareInt a b == some .eq
  | .float a, .int b => Number.compareInt b a == some .eq
  | .float a, .float b => a == b
  | .complex re im, .complex re' im' => re == re' && im == im'
  | .complex re im, .float b => re == b && im == 0
  | .float b, .complex re im => re == b && im == 0
  | .complex re im, .int b => Number.compareInt b re == some .eq && im == 0
  | .int b, .complex re im => Number.compareInt b re == some .eq && im == 0

/-- Whether two moments are the same; both or neither must have an offset. -/
def momentsEqual (a b : Calendar.DateTime) : Bool :=
  a.offset.isSome == b.offset.isSome && a.micros == b.micros

mutual

/-- Whether two values are equal. -/
def equal : Datum → Datum → Bool
  | bool a, v => numericEqual (.int a.toInt) v
  | int a, v => numericEqual (.int a) v
  | float a, v => numericEqual (.float a) v
  | complex re im, v => numericEqual (.complex re im) v
  | unset, unset => true
  | text a, text b => a == b
  | bytes a, bytes b => a == b
  | date a, date b => decide (a = b)
  | dateTime a, dateTime b => momentsEqual a b
  | span a, span b => a == b
  | list a, list b => itemsEqual a b
  | tuple a, tuple b => itemsEqual a b
  | dict a, dict b => a.length == b.length && entriesEqual a b
  | builtin a, builtin b => a == b
  | ellipsis, ellipsis => true
  | _, _ => false
where
  /-- Whether a number equals a value. -/
  numericEqual (a : Numeric) (v : Datum) : Bool :=
    match v.numeric? with
    | some b => a.equal b
    | none => false

/-- Whether two lists have equal items. -/
def itemsEqual : List Datum → List Datum → Bool
  | [], [] => true
  | a :: as, b :: bs => equal a b && itemsEqual as bs
  | _, _ => false

/-- Whether every entry of the first list has an equal one in the second. -/
def entriesEqual : List (Datum × Datum) → List (Datum × Datum) → Bool
  | [], _ => true
  | (k, v) :: rest, other =>
    other.any (fun e => equal k e.1 && equal v e.2) && entriesEqual rest other

end

/-- Whether an order holds between two values of a type in order. -/
def holds (op : CompareOp) (o : Ordering) : Bool :=
  match op with
  | .lt => o == .lt
  | .le => o != .gt
  | .gt => o == .gt
  | .ge => o != .lt
  | _ => false

/-- Whether an order holds between two numbers; nothing holds of a float that is not a number. -/
def Numeric.order (op : CompareOp) : Numeric → Numeric → Except EvaluationFault Bool
  | .int a, .int b => .ok (holds op (compare a b))
  | .int a, .float b => .ok ((Number.compareInt a b).elim false (holds op))
  | .float a, .int b => .ok ((Number.compareInt b a).elim false fun o => holds op o.swap)
  | .float a, .float b =>
    .ok (match op with
      | .lt => a < b
      | .le => a <= b
      | .gt => a > b
      | .ge => a >= b
      | _ => false)
  | _, _ => .error .wrongType

/-- The order of two lists of numbers by their first difference. -/
def compareNumbers : List Nat → List Nat → Ordering
  | [], [] => .eq
  | [], _ :: _ => .lt
  | _ :: _, [] => .gt
  | a :: as, b :: bs => if a == b then compareNumbers as bs else compare a b

/-- The order of two texts, by the numbers of their characters. -/
def compareTexts (a b : String) : Ordering :=
  compareNumbers (a.toList.map Char.toNat) (b.toList.map Char.toNat)

/-- Whether an order holds between two values that are not sequences. -/
def orderSimple (op : CompareOp) (a b : Datum) : Except EvaluationFault Bool :=
  match a, b with
  | text a, text b => .ok (holds op (compareTexts a b))
  | bytes a, bytes b =>
    .ok (holds op (compareNumbers (a.map UInt8.toNat) (b.map UInt8.toNat)))
  | date a, date b => .ok (holds op (compare a.ordinal b.ordinal))
  | dateTime a, dateTime b =>
    if a.offset.isSome == b.offset.isSome then .ok (holds op (compare a.micros b.micros))
    else .error .wrongType
  | span a, span b => .ok (holds op (compare a b))
  | a, b =>
    match a.numeric?, b.numeric? with
    | some a, some b => a.order op b
    | _, _ => .error .wrongType

mutual

/-- Whether an order holds between two values. -/
def order (op : CompareOp) : Datum → Datum → Except EvaluationFault Bool
  | list a, list b => orderItems op a b
  | tuple a, tuple b => orderItems op a b
  | a, b => orderSimple op a b

/-- Whether an order holds between two lists: the first items that differ decide, else the lengths. -/
def orderItems (op : CompareOp) : List Datum → List Datum → Except EvaluationFault Bool
  | [], [] => .ok (holds op .eq)
  | [], _ :: _ => .ok (holds op .lt)
  | _ :: _, [] => .ok (holds op .gt)
  | a :: as, b :: bs => if equal a b then orderItems op as bs else order op a b

end

/-! ## Membership -/

mutual

/-- Whether a value can be looked up among keys. -/
def isKey : Datum → Bool
  | list _ => false
  | dict _ => false
  | tuple items => areKeys items
  | _ => true

/-- Whether all values of a list can be looked up. -/
def areKeys : List Datum → Bool
  | [] => true
  | v :: rest => isKey v && areKeys rest

end

/-- Whether bytes occur in bytes. -/
def bytesOccur (part whole : List UInt8) : Bool :=
  Text.occursIn (part.map fun b => Char.ofNat b.toNat) (whole.map fun b => Char.ofNat b.toNat)

/-- Whether a value is in a container. -/
def isIn (v container : Datum) : Except EvaluationFault Bool :=
  match container with
  | text s =>
    match v with
    | text part => .ok (Text.occursIn part.toList s.toList)
    | _ => .error .wrongType
  | bytes bs =>
    match v with
    | bytes part => .ok (bytesOccur part bs)
    | v =>
      match v.integer? with
      | some n =>
        if 0 ≤ n ∧ n < 256 then .ok (bs.any fun b => b.toNat == n.toNat) else .error .wrongValue
      | none => .error .wrongType
  | list items => .ok (items.any fun item => equal item v)
  | tuple items => .ok (items.any fun item => equal item v)
  | dict entries =>
    if v.isKey then .ok (entries.any fun e => equal e.1 v) else .error .wrongType
  | _ => .error .wrongType

end Datum
end Condition
end Walkthrough
