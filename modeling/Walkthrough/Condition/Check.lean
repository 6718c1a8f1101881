/-
# Which terms are allowed

A term is looked at from the outside to the inside and from left to right, and the first thing that is
not allowed is the reason for its refusal. What is left is a `Formula`: it uses no name but those that
are bound and those of the functions, and calls nothing but these functions.
-/

import Walkthrough.Condition.Term

namespace Walkthrough
namespace Condition

/-- An operator that is allowed. -/
def Operator.check {α : Type} : Operator α → Except ConditionFault α
  | .allowed op => .ok op
  | .forbidden construct => .error (.disallowed construct)

/-- The name that stands for a constant, also where it is bound. -/
def debugName : String := "__debug__"

/-- A name that may be used: one that is bound, or else the name of a function. -/
def checkName (names : List String) (s : String) : Except ConditionFault Formula :=
  if names.contains s then .ok (if s == debugName then .constant (.bool true) else .name s)
  else match Builtin.ofName? s with
    | some b => .ok (.builtin b)
    | none => .error (.unknownName s)

/-- The function that a term in front of arguments names. -/
def callee : Term → Except ConditionFault (String × Builtin)
  | .name s =>
    match Builtin.ofName? s with
    | some b => .ok (s, b)
    | none => .error .forbiddenCall
  | _ => .error .forbiddenCall

mutual

/-- The formula that a term is, where the given names are bound. -/
def Term.check (names : List String) : Term → Except ConditionFault Formula
  | .name s => checkName names s
  | .constant c => .ok (.constant c)
  | .binary op left right => do
    let left ← left.check names
    let op ← op.check
    let right ← right.check names
    return .binary op left right
  | .unary op operand => do
    let op ← op.check
    let operand ← operand.check names
    return .unary op operand
  | .junction isOr operands => do
    let operands ← checkAll names operands
    return .junction isOr operands
  | .comparison first rest => do
    let first ← first.check names
    let rest ← checkComparisons names rest
    return .comparison first rest
  | .conditional test body orElse => do
    let test ← test.check names
    let body ← body.check names
    let orElse ← orElse.check names
    return .conditional test body orElse
  | .call function arguments keywords => do
    let (s, b) ← callee function
    if keywords then .error .keywordArguments else
    let arguments ← checkAll names arguments
    return if names.contains s then .callName s arguments else .call b arguments
  | .tuple items => do
    let items ← checkAll names items
    return .tuple items
  | .list items => do
    let items ← checkAll names items
    return .list items
  | .forbidden construct => .error (.disallowed construct)

/-- The formulas that the terms of a list are. -/
def checkAll (names : List String) : List Term → Except ConditionFault (List Formula)
  | [] => .ok []
  | t :: rest => do
    let t ← t.check names
    let rest ← checkAll names rest
    return t :: rest

/-- The formulas that the further operands of a chain of comparisons are. -/
def checkComparisons (names : List String) :
    List (CompareOp × Term) → Except ConditionFault (List (CompareOp × Formula))
  | [] => .ok []
  | (op, t) :: rest => do
    let t ← t.check names
    let rest ← checkComparisons names rest
    return (op, t) :: rest

end

end Condition
end Walkthrough
