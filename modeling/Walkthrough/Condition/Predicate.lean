/-
# Conditions

A condition is compiled once and evaluated many times. It is true or false of the values of the
properties that its header names; a value of another type is an error.
-/

import Walkthrough.Condition.Check
import Walkthrough.Condition.Evaluation
import Walkthrough.Condition.Header
import Walkthrough.Condition.Parser

namespace Walkthrough

/-- A compiled condition: its text, the properties its names stand for, and what to evaluate. -/
structure Predicate where
  text : String
  parameters : OrderedMap String Int
  formula : Condition.Formula

namespace Predicate

open Condition

/-- Typographic double quotes as plain ones. -/
def plainQuotes (cs : List Char) : List Char :=
  cs.map fun c => if c == '“' || c == '”' then '"' else c

/-- The formula of an expression in which the given names are bound. -/
def formulaOf (names : List String) (body : List Char) : Except ConditionFault Formula :=
  match Term.ofText? (plainQuotes body) with
  | none => .error .malformed
  | some t => t.check names

/-- Whether bindings can be logged. Those of a header were read from numerals, so that only bindings that
are given can have a number with too many digits. -/
def canLog (given : Option (OrderedMap String Int)) : Bool := given.all fun ps => ps.values.all Value.isShort

/-- **Compiling.** The condition that a text states; its header is read also where the bindings are
given. -/
def compile (text : String) (given : Option (OrderedMap String Int)) : Except Error Predicate :=
  let refuse := fun cause => Error.script (.badCondition cause text)
  match split text with
  | .error cause => .error (refuse cause)
  | .ok headed =>
    let parameters := given.getD headed.bindings
    if headed.body.contains '\x00' then .error (refuse .malformed)
    else match formulaOf parameters.keys headed.body with
      | .error cause => .error (refuse cause)
      | .ok formula => if canLog given then .ok ⟨text, parameters, formula⟩ else .error .tooManyDigits

/-- The properties that a condition reads, in the order of its header. -/
def propertyIds (p : Predicate) : List Int := p.parameters.values

/-- The value of a name in a condition. -/
def env (p : Predicate) (values : String → Value) (name : String) : Datum :=
  if p.parameters.contains name then .ofValue (values name) else .unset

/-- **Evaluating.** Whether a condition holds of the values of its names. -/
def evaluate (p : Predicate) (values : String → Value) : Except ScriptError Bool :=
  match p.formula.value (p.env values) with
  | .ok (.bool b) => .ok b
  | .ok _ => .error (.conditionFailed .notBoolean p.text)
  | .error cause => .error (.conditionFailed cause p.text)

end Predicate
end Walkthrough
