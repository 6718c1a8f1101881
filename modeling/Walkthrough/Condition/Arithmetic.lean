/-
# Arithmetic in conditions

Integers are exact and become floats only beside a float, or in a division. Division to the floor and
the remainder go with the sign of the divisor. Texts, bytes, lists and tuples are joined by a sum and
repeated by a product. The difference of two days or moments is a length of time, which can be added,
multiplied and divided.
-/

import Walkthrough.Condition.Comparison
import Walkthrough.Condition.Percent

namespace Walkthrough
namespace Condition
namespace Datum

/-! ## Floats -/

/-- The remainder of a division of floats toward zero. -/
def truncatedRemainder (a b : Float) : Float :=
  match Number.parts a, Number.parts b with
  | .finite x, .finite y => if y.mantissa == 0 then Number.notANumber else Number.remainder x y
  | .finite _, .infinite _ => a
  | _, _ => Number.notANumber

/-- A zero with the sign of a float. -/
def zeroLike (x : Float) : Float := if Number.isNegative x then -0.0 else 0.0

/-- The quotient of two floats to the floor, and the remainder with the sign of the divisor. -/
def floatDivMod (a b : Float) : Float × Float :=
  let r := truncatedRemainder a b
  let q := (a - r) / b
  let (q, r) :=
    if r != 0 then if (b < 0) != (r < 0) then (q - 1.0, r + b) else (q, r)
    else (q, zeroLike b)
  let q := if q != 0 then
      let f := q.floor
      if q - f > 0.5 then f + 1.0 else f
    else zeroLike (a / b)
  (q, r)

/-- The quotient of two complex numbers, the greater part of the divisor taken out first. -/
def complexQuotient (a b : Float × Float) : Except EvaluationFault (Float × Float) :=
  if b.1.abs >= b.2.abs then
    if b.1 == 0 then .error .zeroDivision
    else
      let ratio := b.2 / b.1
      let d := b.1 + b.2 * ratio
      .ok ((a.1 + a.2 * ratio) / d, (a.2 - a.1 * ratio) / d)
  else
    let ratio := b.1 / b.2
    let d := b.1 * ratio + b.2
    .ok ((a.1 * ratio + a.2) / d, (a.2 * ratio - a.1) / d)

/-- The quotient of two integers as the nearest float. -/
def integerQuotient (a b : Int) : Except EvaluationFault Float :=
  if b == 0 then .error .zeroDivision
  else
    let x := Number.ofRatio ((a < 0) != (b < 0) && a != 0) a.natAbs b.natAbs
    if Number.isFinite x then .ok x else .error .overflow

/-- An operation on two numbers. -/
def combineNumbers (op : BinaryOp) (a b : Numeric) : Except EvaluationFault Datum := do
  match a, b with
  | .int a, .int b =>
    match op with
    | .add => return int (a + b)
    | .subtract => return int (a - b)
    | .multiply => return int (a * b)
    | .divide => return float (← integerQuotient a b)
    | .floorDivide => if b == 0 then throw .zeroDivision else return int (a.fdiv b)
    | .modulo => if b == 0 then throw .zeroDivision else return int (a.fmod b)
  | .complex _ _, _ | _, .complex _ _ =>
    let x ← a.parts
    let y ← b.parts
    match op with
    | .add => return complex (x.1 + y.1) (x.2 + y.2)
    | .subtract => return complex (x.1 - y.1) (x.2 - y.2)
    | .multiply => return complex (x.1 * y.1 - x.2 * y.2) (x.1 * y.2 + x.2 * y.1)
    | .divide =>
      let q ← complexQuotient x y
      return complex q.1 q.2
    | _ => throw .wrongType
  | a, b =>
    let x ← a.toFloat
    let y ← b.toFloat
    match op with
    | .add => return float (x + y)
    | .subtract => return float (x - y)
    | .multiply => return float (x * y)
    | .divide => if y == 0 then throw .zeroDivision else return float (x / y)
    | .floorDivide => if y == 0 then throw .zeroDivision else return float (floatDivMod x y).1
    | .modulo => if y == 0 then throw .zeroDivision else return float (floatDivMod x y).2

/-! ## Lengths of time -/

/-- A length of time, of at most 999999999 days. -/
def checkedSpan (micros : Int) : Except EvaluationFault Datum :=
  if (micros.fdiv Calendar.microsPerDay).natAbs ≤ 999999999 then .ok (span micros)
  else .error .overflow

/-- The quotient of two integers rounded to the nearest integer, a half to the even one. -/
def nearestQuotient (a b : Int) : Int :=
  let n : Int := Number.divEven a.natAbs b.natAbs
  if (a < 0) != (b < 0) then -n else n

/-- A finite float as a ratio of integers. -/
def ratio (x : Float) : Except EvaluationFault (Int × Int) :=
  match Number.parts x with
  | .nan => .error .wrongValue
  | .infinite _ => .error .overflow
  | .finite d =>
    let n : Int := d.mantissa * 2 ^ d.exponent.toNat
    .ok (if d.negative then -n else n, 2 ^ (-d.exponent).toNat)

/-- A day some length of time away; only whole days count. -/
def shiftDate (d : Calendar.Date) (days : Int) : Except EvaluationFault Datum :=
  match Calendar.Date.ofOrdinal? (d.ordinal + days) with
  | some d => .ok (date d)
  | none => .error .overflow

/-- A moment some length of time away. -/
def shiftMoment (t : Calendar.DateTime) (micros : Int) : Except EvaluationFault Datum :=
  match Calendar.DateTime.ofLocalMicros? (t.localMicros + micros) t.offset with
  | some t => .ok (dateTime t)
  | none => .error .overflow

/-- An operation on two values of which one is a day, a moment or a length of time. -/
def combineTimes (op : BinaryOp) (a b : Datum) : Except EvaluationFault Datum := do
  match op, a, b with
  | .add, span a, span b => checkedSpan (a + b)
  | .add, date d, span n => shiftDate d (n.fdiv Calendar.microsPerDay)
  | .add, span n, date d => shiftDate d (n.fdiv Calendar.microsPerDay)
  | .add, dateTime t, span n => shiftMoment t n
  | .add, span n, dateTime t => shiftMoment t n
  | .subtract, span a, span b => checkedSpan (a - b)
  | .subtract, date d, span n => shiftDate d (-(n.fdiv Calendar.microsPerDay))
  | .subtract, dateTime t, span n => shiftMoment t (-n)
  | .subtract, date a, date b => checkedSpan ((a.ordinal - b.ordinal) * Calendar.microsPerDay)
  | .subtract, dateTime a, dateTime b =>
    if a.offset.isSome == b.offset.isSome then checkedSpan (a.micros - b.micros)
    else throw .wrongType
  | .multiply, span n, float x | .multiply, float x, span n =>
    let (p, q) ← ratio x
    checkedSpan (nearestQuotient (n * p) q)
  | .multiply, span n, v | .multiply, v, span n =>
    match v.integer? with
    | some k => checkedSpan (n * k)
    | none => throw .wrongType
  | .divide, span a, span b => return float (← integerQuotient a b)
  | .divide, span n, float x =>
    let (p, q) ← ratio x
    if p == 0 then throw .zeroDivision else checkedSpan (nearestQuotient (n * q) p)
  | .divide, span n, v =>
    match v.integer? with
    | some k => if k == 0 then throw .zeroDivision else checkedSpan (nearestQuotient n k)
    | none => throw .wrongType
  | .floorDivide, span a, span b =>
    if b == 0 then throw .zeroDivision else return int (a.fdiv b)
  | .floorDivide, span n, v =>
    match v.integer? with
    | some k => if k == 0 then throw .zeroDivision else checkedSpan (n.fdiv k)
    | none => throw .wrongType
  | .modulo, span a, span b =>
    if b == 0 then throw .zeroDivision else checkedSpan (a.fmod b)
  | _, _, _ => throw .wrongType

/-! ## Sequences -/

/-- A sequence some number of times in a row; less than once is not at all. More items than an index
can count are the fault `excess`; fewer can still be too many for the memory. -/
def repeated {α : Type} (excess : EvaluationFault) (items : List α) (n : Int) :
    Except EvaluationFault (List α) :=
  if n < -(2 ^ 63) ∨ 2 ^ 63 ≤ n then .error .overflow
  else if 2 ^ 63 ≤ n.toNat * items.length then .error excess
  else if addressSpace ≤ n.toNat * items.length then .error .outOfMemory
  else if items.isEmpty then .ok []
  else .ok (List.replicate n.toNat items).flatten

/-- A text, bytes, a list or a tuple some number of times in a row. -/
def repeat_ (v : Datum) (n : Int) : Except EvaluationFault Datum := do
  match v with
  | text s => return text (String.ofList (← repeated .overflow s.toList n))
  | bytes bs => return bytes (← repeated .overflow bs n)
  | list items => return list (← repeated .outOfMemory items n)
  | tuple items => return tuple (← repeated .outOfMemory items n)
  | _ => throw .wrongType

/-- An operation on two values that are not both numbers. -/
def combineOthers (op : BinaryOp) (a b : Datum) : Except EvaluationFault Datum :=
  match op, a, b with
  | .add, text a, text b => .ok (text (a ++ b))
  | .add, bytes a, bytes b => .ok (bytes (a ++ b))
  | .add, list a, list b => .ok (list (a ++ b))
  | .add, tuple a, tuple b => .ok (tuple (a ++ b))
  | .modulo, text s, v => do return text (String.ofList (← Percent.format .text s.toList v))
  | .modulo, bytes bs, v => do
    let cs ← Percent.format .bytes (Percent.ofBytes bs).toList v
    return bytes (cs.map fun c => c.toNat.toUInt8)
  | .multiply, span n, v => combineTimes op (span n) v
  | .multiply, v, span n => combineTimes op v (span n)
  | .multiply, a, b =>
    match a.integer?, b.integer? with
    | none, some n => repeat_ a n
    | some n, none => repeat_ b n
    | _, _ => .error .wrongType
  | op, a, b => combineTimes op a b

/-- **Operations on two values.** -/
def combine (op : BinaryOp) (a b : Datum) : Except EvaluationFault Datum :=
  match a.numeric?, b.numeric? with
  | some a, some b => combineNumbers op a b
  | _, _ => combineOthers op a b

/-- **Operations on one value.** -/
def apply (op : UnaryOp) (v : Datum) : Except EvaluationFault Datum :=
  match op with
  | .not => .ok (bool (!v.isTruthy))
  | .plus =>
    match v, v.numeric? with
    | span n, _ => .ok (span n)
    | _, some (.int n) => .ok (int n)
    | _, some (.float x) => .ok (float x)
    | _, some (.complex re im) => .ok (complex re im)
    | _, none => .error .wrongType
  | .minus =>
    match v, v.numeric? with
    | span n, _ => checkedSpan (-n)
    | _, some (.int n) => .ok (int (-n))
    | _, some (.float x) => .ok (float (-x))
    | _, some (.complex re im) => .ok (complex (-re) (-im))
    | _, none => .error .wrongType

end Datum
end Condition
end Walkthrough
