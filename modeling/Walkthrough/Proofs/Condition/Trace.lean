/-
# Evaluating terms that were not checked

A term of which nothing is known may read names that are not bound, call what is no function, and contain
constructs that no condition may contain. Its evaluation is told by what it does on its way (`Event`) and by its
result, which may be that it breaks off (`Halt`). The terms of a condition are evaluated in the same order as
formulas, and are only told apart by what can happen.
-/

import Walkthrough.Condition.Check
import Walkthrough.Condition.Evaluation

namespace Walkthrough
namespace Condition

/-- What an evaluation does on its way: it reads a variable, or it calls something. -/
inductive Event where
  | reads (name : String)
  | calls (function : Datum) (arguments : List Datum) (keywords : Bool)

/-- Why an evaluation breaks off: of itself, at a name that is not bound, at a construct that has no value here, or
at arguments given by name. -/
inductive Halt where
  | fault (cause : EvaluationFault)
  | unbound (name : String)
  | foreign (construct : Construct)
  | keywords

/-- What an evaluation does, in turn, and what comes of it. -/
structure Trace (α : Type) where
  events : List Event
  result : Except Halt α

namespace Trace

variable {α β : Type}

/-- Nothing happens. -/
def pure (a : α) : Trace α := ⟨[], .ok a⟩

/-- One thing after another, if the first gives a value. -/
def bind (t : Trace α) (next : α → Trace β) : Trace β :=
  match t.result with
  | .error halt => ⟨t.events, .error halt⟩
  | .ok a => ⟨t.events ++ (next a).events, (next a).result⟩

instance : Monad Trace where
  pure := Trace.pure
  bind := Trace.bind

/-- Something happens. -/
def emit (e : Event) : Trace Unit := ⟨[e], .ok ()⟩

/-- The evaluation breaks off. -/
def halt (h : Halt) : Trace α := ⟨[], .error h⟩

/-- Computing without an effect. -/
def lift (r : Except EvaluationFault α) : Trace α := ⟨[], r.mapError .fault⟩

end Trace

/-- Looks a name up among the variables and then among the functions. -/
def lookUp (scope : String → Option Datum) (s : String) : Trace Datum :=
  if s == debugName then pure (.bool true)
  else match scope s with
    | some x => do
      Trace.emit (.reads s)
      return x
    | none =>
      match Builtin.ofName? s with
      | some b => return .builtin b
      | none => do
        Trace.emit (.reads s)
        Trace.halt (.unbound s)

/-- Calls a value with arguments. -/
def invoke (function : Datum) (arguments : List Datum) (keywords : Bool) : Trace Datum := do
  Trace.emit (.calls function arguments keywords)
  if keywords then Trace.halt .keywords
  else match function with
    | .builtin b => Trace.lift (Call.run b arguments)
    | _ => Trace.lift (.error .wrongType)

/-- Performs an operation if it is one of these. -/
def Operator.perform {α : Type} (run : α → Except EvaluationFault Datum) : Operator α → Trace Datum
  | .allowed op => Trace.lift (run op)
  | .forbidden construct => Trace.halt (.foreign construct)

/-! ## Identity -/

/-- The variable that a term is. -/
def Term.variableName? : Term → Option String
  | .name s => if s == debugName || (Builtin.ofName? s).isSome then none else some s
  | _ => none

mutual

/-- Whether a term has the same value everywhere. -/
def Term.isConstant : Term → Bool
  | .name s => s == debugName
  | .constant _ => true
  | .unary (.allowed op) t => op != .not && t.isConstant
  | .binary (.allowed _) t u => t.isConstant && u.isConstant
  | .tuple items => areConstantTerms items
  | _ => false

/-- Whether all terms of a list are constant. -/
def areConstantTerms : List Term → Bool
  | [] => true
  | t :: rest => t.isConstant && areConstantTerms rest

end

/-- Whether two operands are one variable; if they are not both variables, what holds `otherwise`. -/
def sameVariable (otherwise : Bool) : Option String → Option String → Bool
  | some r, some s => r == s
  | _, _ => otherwise

/-- Whether the values `x` of `t` and `y` of `u` are one and the same. -/
def identicalTerms (t u : Term) (x y : Datum) : Bool :=
  sameVariable (t.isConstant && u.isConstant && x.literal == y.literal) t.variableName? u.variableName? ||
    (x.isUnique && y.isUnique && x.literal == y.literal)

/-- Whether a comparison holds between the values `x` of `t` and `y` of `u`. -/
def compareTerms (op : CompareOp) (t u : Term) (x y : Datum) : Except EvaluationFault Bool :=
  match op with
  | .eq => .ok (Datum.equal x y)
  | .ne => .ok (!Datum.equal x y)
  | .in_ => Datum.isIn x y
  | .notIn => do return !(← Datum.isIn x y)
  | .is => .ok (identicalTerms t u x y)
  | .isNot => .ok (!identicalTerms t u x y)
  | op => Datum.order op x y

/-! ## Evaluation -/

mutual

/-- **The evaluation of a term**, the values of the variables given. -/
def Term.trace (scope : String → Option Datum) : Term → Trace Datum
  | .name s => lookUp scope s
  | .constant c => return .ofConstant c
  | .binary op left right => do
    let x ← left.trace scope
    let y ← right.trace scope
    op.perform fun op => Datum.combine op x y
  | .unary op operand => do
    let x ← operand.trace scope
    op.perform fun op => Datum.apply op x
  | .junction isOr operands => junctionTrace scope isOr operands
  | .comparison first rest => do
    let x ← first.trace scope
    chainTrace scope first x rest
  | .conditional test body orElse => do
    let x ← test.trace scope
    if x.isTruthy then body.trace scope else orElse.trace scope
  | .call function arguments keywords => do
    let g ← function.trace scope
    let xs ← listTrace scope arguments
    invoke g xs keywords
  | .tuple items => do
    let xs ← listTrace scope items
    return .tuple xs
  | .list items => do
    let xs ← listTrace scope items
    return .list xs
  | .forbidden construct => Trace.halt (.foreign construct)

/-- The evaluation of the terms of a list, in order. -/
def listTrace (scope : String → Option Datum) : List Term → Trace (List Datum)
  | [] => return []
  | t :: rest => do
    let x ← t.trace scope
    let xs ← listTrace scope rest
    return x :: xs

/-- The evaluation of operands up to the one that decides. -/
def junctionTrace (scope : String → Option Datum) (isOr : Bool) : List Term → Trace Datum
  | [] => return .bool (!isOr)
  | t :: rest => do
    let x ← t.trace scope
    if rest.isEmpty || x.isTruthy == isOr then return x else junctionTrace scope isOr rest

/-- The evaluation of a chain of comparisons after the operand `t` with the value `x`. -/
def chainTrace (scope : String → Option Datum) (t : Term) (x : Datum) :
    List (CompareOp × Term) → Trace Datum
  | [] => return .bool true
  | (op, u) :: rest => do
    let y ← u.trace scope
    if ← Trace.lift (compareTerms op t u x y) then chainTrace scope u y rest else return .bool false

end

end Condition
end Walkthrough
