/-
# Evaluating formulas

A formula has a value wherever its names have values, or its evaluation breaks off. `and` and `or` give
the value of the operand that decides, and leave the operands after it alone; so does a chain of
comparisons after the first that does not hold.

Whether two values are one and the same (`is`) is decided by where they come from: a name and itself,
constants that read alike, and small values, of which there is one each.
-/

import Walkthrough.Condition.Call

namespace Walkthrough
namespace Condition

/-- Whether there is only one value of this kind. -/
def Datum.isUnique : Datum → Bool
  | .unset => true
  | .bool _ => true
  | .int n => -5 ≤ n && n ≤ 256
  | .text s => s.length == 0 || (s.length == 1 && s.toList.all fun c => c.toNat < 256)
  | .bytes bs => bs.length ≤ 1
  | .tuple items => items.isEmpty
  | .builtin _ => true
  | .ellipsis => true
  | _ => false

mutual

/-- Whether a formula has the same value everywhere. -/
def Formula.isConstant : Formula → Bool
  | .constant _ => true
  | .unary op f => op != .not && f.isConstant
  | .binary _ f g => f.isConstant && g.isConstant
  | .tuple items => areConstant items
  | _ => false

/-- Whether all formulas of a list are constant. -/
def areConstant : List Formula → Bool
  | [] => true
  | f :: rest => f.isConstant && areConstant rest

end

/-- Whether the values `x` of `f` and `y` of `g` are one and the same. -/
def identical (f g : Formula) (x y : Datum) : Bool :=
  (match f, g with
    | .name s, .name t => s == t
    | f, g => f.isConstant && g.isConstant && x.literal == y.literal) ||
  (x.isUnique && y.isUnique && x.literal == y.literal)

/-- Whether a comparison holds between the values `x` of `f` and `y` of `g`. -/
def compareWith (op : CompareOp) (f g : Formula) (x y : Datum) : Except EvaluationFault Bool :=
  match op with
  | .eq => .ok (Datum.equal x y)
  | .ne => .ok (!Datum.equal x y)
  | .in_ => Datum.isIn x y
  | .notIn => do return !(← Datum.isIn x y)
  | .is => .ok (identical f g x y)
  | .isNot => .ok (!identical f g x y)
  | op => Datum.order op x y

mutual

/-- **The value of a formula**, the values of its names given. -/
def Formula.value (env : String → Datum) : Formula → Except EvaluationFault Datum
  | .name s => .ok (env s)
  | .builtin b => .ok (.builtin b)
  | .constant c => .ok (.ofConstant c)
  | .binary op f g => do
    let x ← f.value env
    let y ← g.value env
    Datum.combine op x y
  | .unary op f => do
    let x ← f.value env
    Datum.apply op x
  | .junction isOr operands => junctionValue env isOr operands
  | .comparison first rest => do
    let x ← first.value env
    chainValue env first x rest
  | .conditional test body orElse => do
    let t ← test.value env
    if t.isTruthy then body.value env else orElse.value env
  | .call b arguments => do
    let xs ← listValue env arguments
    Call.run b xs
  | .callName _ arguments => do
    let _ ← listValue env arguments
    .error .wrongType
  | .tuple items => do
    let xs ← listValue env items
    return .tuple xs
  | .list items => do
    let xs ← listValue env items
    return .list xs

/-- The values of a list of formulas. -/
def listValue (env : String → Datum) : List Formula → Except EvaluationFault (List Datum)
  | [] => .ok []
  | f :: rest => do
    let x ← f.value env
    let xs ← listValue env rest
    return x :: xs

/-- The value of the operand that decides a junction. -/
def junctionValue (env : String → Datum) (isOr : Bool) :
    List Formula → Except EvaluationFault Datum
  | [] => .ok (.bool (!isOr))
  | f :: rest => do
    let x ← f.value env
    if rest.isEmpty || x.isTruthy == isOr then return x else junctionValue env isOr rest

/-- The value of a chain of comparisons after the operand `f` with the value `x`. -/
def chainValue (env : String → Datum) (f : Formula) (x : Datum) :
    List (CompareOp × Formula) → Except EvaluationFault Datum
  | [] => .ok (.bool true)
  | (op, g) :: rest => do
    let y ← g.value env
    if ← compareWith op f g x y then chainValue env g y rest else return .bool false

end

end Condition
end Walkthrough
