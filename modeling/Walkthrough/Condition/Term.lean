/-
# Terms and formulas

A `Term` is any expression that is well formed. What no condition may contain is a leaf that only says
what it is. A `Formula` is a term that was found to be allowed: its type has no place for anything else.
-/

import Walkthrough.Condition.Token
import Walkthrough.Error.Basic

namespace Walkthrough
namespace Condition

/-- An operation on two operands. -/
inductive BinaryOp where
  | add | subtract | multiply | divide | floorDivide | modulo
deriving DecidableEq

/-- An operation on one operand. -/
inductive UnaryOp where
  | plus | minus | not
deriving DecidableEq

/-- A comparison of two operands. -/
inductive CompareOp where
  | eq | ne | lt | le | gt | ge | in_ | notIn | is | isNot
deriving DecidableEq

/-- An operation that may be allowed or not. -/
inductive Operator (α : Type) where
  | allowed (op : α)
  | forbidden (construct : Construct)
deriving DecidableEq

/-- A well-formed expression. -/
inductive Term where
  | name (s : String)
  | constant (c : Constant)
  | binary (op : Operator BinaryOp) (left right : Term)
  | unary (op : Operator UnaryOp) (operand : Term)
  | junction (isOr : Bool) (operands : List Term)
  | comparison (first : Term) (rest : List (CompareOp × Term))
  | conditional (test body orElse : Term)
  | call (function : Term) (arguments : List Term) (keywords : Bool)
  | tuple (items : List Term)
  | list (items : List Term)
  | forbidden (construct : Construct)
deriving Inhabited

/-- The functions that a condition may call. -/
inductive Builtin where
  | abs | min | max | int | float | str | len | round | bool
deriving DecidableEq

namespace Builtin

/-- All functions. -/
def all : List Builtin := [.abs, .min, .max, .int, .float, .str, .len, .round, .bool]

/-- The name of a function. -/
def name : Builtin → String
  | abs => "abs"
  | min => "min"
  | max => "max"
  | int => "int"
  | float => "float"
  | str => "str"
  | len => "len"
  | round => "round"
  | bool => "bool"

/-- The function with a name. -/
def ofName? (s : String) : Option Builtin := all.find? fun b => b.name == s

end Builtin

/-- An allowed expression. -/
inductive Formula where
  | name (s : String)
  | builtin (b : Builtin)
  | constant (c : Constant)
  | binary (op : BinaryOp) (left right : Formula)
  | unary (op : UnaryOp) (operand : Formula)
  | junction (isOr : Bool) (operands : List Formula)
  | comparison (first : Formula) (rest : List (CompareOp × Formula))
  | conditional (test body orElse : Formula)
  | call (function : Builtin) (arguments : List Formula)
  | callName (name : String) (arguments : List Formula)
  | tuple (items : List Formula)
  | list (items : List Formula)
deriving Inhabited

end Condition
end Walkthrough
