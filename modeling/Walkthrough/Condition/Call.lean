/-
# The functions of conditions

| function | value |
| --- | --- |
| `abs x` | the magnitude of a number or of a length of time |
| `min`, `max` | the first least or greatest argument, or item of the only argument |
| `int`, `float`, `str`, `bool` | the value as another type |
| `len x` | the number of characters, bytes, items or entries |
| `round x n` | the number rounded to `n` places, a half to the even neighbour |
-/

import Walkthrough.Condition.Arithmetic

namespace Walkthrough
namespace Condition
namespace Call

open Datum (integer? numeric?)

/-- Bytes as the text of a numeral. -/
def bytesAsText (bs : List UInt8) : String := String.ofList (bs.map fun b => Char.ofNat b.toNat)

/-- The magnitude of a value. -/
def abs (v : Datum) : Except EvaluationFault Datum :=
  match v, v.numeric? with
  | .span n, _ => .ok (.span n.natAbs)
  | _, some (.int n) => .ok (.int n.natAbs)
  | _, some (.float x) => .ok (.float x.abs)
  | _, some (.complex re im) => .ok (.float (re * re + im * im).sqrt)
  | _, none => .error .wrongType

/-- The items of a value that has items. -/
def items? : Datum → Option (List Datum)
  | .text s => some (s.toList.map fun c => .text c.toString)
  | .bytes bs => some (bs.map fun b => .int b.toNat)
  | .list items => some items
  | .tuple items => some items
  | .dict entries => some (entries.map Prod.fst)
  | _ => none

/-- The first of the values that no later one exceeds. -/
def extreme (op : CompareOp) (best : Datum) : List Datum → Except EvaluationFault Datum
  | [] => .ok best
  | v :: rest => do
    if ← Datum.order op v best then extreme op v rest else extreme op best rest

/-- The least or the greatest of the arguments, or of the items of the only one. -/
def leastOrGreatest (op : CompareOp) (arguments : List Datum) : Except EvaluationFault Datum :=
  let candidates := match arguments with
    | [] => none
    | [v] => items? v
    | vs => some vs
  match candidates with
  | none => .error .wrongType
  | some [] => .error .wrongValue
  | some (v :: rest) => extreme op v rest

/-- A numeral as an integer. -/
def readInteger (base : Nat) (s : String) : Except EvaluationFault Datum :=
  match if base == 10 then Number.readInt? s else Number.readIntIn? base s with
  | some n => .ok (.int n)
  | none => .error .wrongValue

/-- A value as an integer. -/
def toInteger (arguments : List Datum) : Except EvaluationFault Datum :=
  match arguments with
  | [] => .ok (.int 0)
  | [.text s] => readInteger 10 s
  | [.bytes bs] => readInteger 10 (bytesAsText bs)
  | [.float x] => do return .int (← Percent.decimalValue (.float x))
  | [v] =>
    match v.integer? with
    | some n => .ok (.int n)
    | none => .error .wrongType
  | [v, b] =>
    match b.integer? with
    | none => .error .wrongType
    | some base =>
      if base == 0 ∨ (2 ≤ base ∧ base ≤ 36) then
        match v with
        | .text s => readInteger base.toNat s
        | .bytes bs => readInteger base.toNat (bytesAsText bs)
        | _ => .error .wrongType
      else .error .wrongValue
  | _ => .error .wrongType

/-- A numeral as a float. -/
def readFloat (s : String) : Except EvaluationFault Datum :=
  match Number.readFloat? s with
  | some x => .ok (.float x)
  | none => .error .wrongValue

/-- A value as a float. -/
def toFloat (arguments : List Datum) : Except EvaluationFault Datum :=
  match arguments with
  | [] => .ok (.float 0.0)
  | [.text s] => readFloat s
  | [.bytes bs] => readFloat (bytesAsText bs)
  | [v] =>
    match v.numeric? with
    | some n => do return .float (← n.toFloat)
    | none => .error .wrongType
  | _ => .error .wrongType

/-- Bytes as text in one of the known encodings. -/
def decode (bs : List UInt8) (encoding : String) : Except EvaluationFault Datum :=
  let key := String.ofList ((encoding.toList.map Char.toLower).map fun c =>
    if c == '_' || c == ' ' then '-' else c)
  if key == "utf-8" || key == "utf8" || key == "u8" then
    match String.fromUTF8? ⟨bs.toArray⟩ with
    | some s => .ok (.text s)
    | none => .error .undecodable
  else if key == "ascii" || key == "us-ascii" then
    if bs.all fun b => b < 128 then .ok (.text (bytesAsText bs)) else .error .undecodable
  else if key == "latin-1" || key == "latin1" || key == "iso-8859-1" || key == "l1" then
    .ok (.text (bytesAsText bs))
  else .error .lookup

/-- A value as text. -/
def toText (arguments : List Datum) : Except EvaluationFault Datum :=
  match arguments with
  | [] => .ok (.text "")
  | [v] => do return .text (← v.text?)
  | [.bytes bs, .text encoding] => decode bs encoding
  | [.bytes bs, .text encoding, .text _] => decode bs encoding
  | _ => .error .wrongType

/-- The number of items of a value. -/
def length (v : Datum) : Except EvaluationFault Datum :=
  match v with
  | .text s => .ok (.int s.length)
  | .bytes bs => .ok (.int bs.length)
  | .list items => .ok (.int items.length)
  | .tuple items => .ok (.int items.length)
  | .dict entries => .ok (.int entries.length)
  | _ => .error .wrongType

/-- An integer rounded to a multiple of a power of ten, a half to the even multiple. -/
def roundInteger (n : Int) (places : Int) : Int :=
  if places ≥ 0 then n
  else if (-places).toNat > n.natAbs.log2 + 1 then 0
  else
    let unit : Int := 10 ^ (-places).toNat
    Datum.nearestQuotient n unit * unit

/-- A number rounded to the nearest integer. -/
def roundWhole (v : Datum) : Except EvaluationFault Datum :=
  match v.numeric? with
  | some (.int n) => .ok (.int n)
  | some (.float x) =>
    match Number.parts x, Number.roundEven? x with
    | .nan, _ => .error .wrongValue
    | _, some n => .ok (.int n)
    | _, none => .error .overflow
  | _ => .error .wrongType

/-- A number rounded to a number of places. -/
def roundPlaces (v : Datum) (places : Int) : Except EvaluationFault Datum :=
  match v.numeric? with
  | some (.int n) => .ok (.int (roundInteger n places))
  | some (.float x) =>
    let r := Number.roundAt x places
    if Number.isFinite x && !Number.isFinite r then .error .overflow else .ok (.float r)
  | _ => .error .wrongType

/-- A rounded number. -/
def round (arguments : List Datum) : Except EvaluationFault Datum :=
  match arguments with
  | [v] => roundWhole v
  | [v, .unset] => roundWhole v
  | [v, p] =>
    match v.numeric?, p.integer? with
    | some (.int _), some places => roundPlaces v places
    | some (.float _), some places => roundPlaces v places
    | _, _ => .error .wrongType
  | _ => .error .wrongType

/-- **Calling a function** with its arguments. -/
def run (b : Builtin) (arguments : List Datum) : Except EvaluationFault Datum :=
  match b, arguments with
  | .abs, [v] => abs v
  | .abs, _ => .error .wrongType
  | .min, vs => leastOrGreatest .lt vs
  | .max, vs => leastOrGreatest .gt vs
  | .int, vs => toInteger vs
  | .float, vs => toFloat vs
  | .str, vs => toText vs
  | .len, [v] => length v
  | .len, _ => .error .wrongType
  | .round, vs => round vs
  | .bool, [] => .ok (.bool false)
  | .bool, [v] => .ok (.bool v.isTruthy)
  | .bool, _ => .error .wrongType

end Call
end Condition
end Walkthrough
