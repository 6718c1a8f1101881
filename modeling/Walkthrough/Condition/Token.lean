/-
# The tokens of a condition

Names, keywords, constants and signs. A text with fields in it, which no condition may contain, is kept
as the texts of its fields, since they have to be well formed before anything else is said about it.
-/

namespace Walkthrough
namespace Condition

/-- A constant in a condition. -/
inductive Constant where
  | unset
  | bool (b : Bool)
  | int (n : Nat)
  | float (x : Float)
  | imaginary (x : Float)
  | text (s : String)
  | bytes (bs : List UInt8)
  | ellipsis
deriving DecidableEq, Inhabited

/-- A word with a fixed meaning; `reserved` is one that no condition can contain. -/
inductive Keyword where
  | and | or | not | if_ | else_ | in_ | is | true | false | none
  | for_ | async | await | lambda | yield | from_ | reserved
deriving DecidableEq

/-- The keywords. -/
def Keyword.table : List (String × Keyword) := [
  ("and", .and), ("or", .or), ("not", .not), ("if", .if_), ("else", .else_), ("in", .in_),
  ("is", .is), ("True", .true), ("False", .false), ("None", .none), ("for", .for_),
  ("async", .async), ("await", .await), ("lambda", .lambda), ("yield", .yield), ("from", .from_),
  ("as", .reserved), ("assert", .reserved), ("break", .reserved), ("class", .reserved),
  ("continue", .reserved), ("def", .reserved), ("del", .reserved), ("elif", .reserved),
  ("except", .reserved), ("finally", .reserved), ("global", .reserved), ("import", .reserved),
  ("nonlocal", .reserved), ("pass", .reserved), ("raise", .reserved), ("return", .reserved),
  ("try", .reserved), ("while", .reserved), ("with", .reserved)]

/-- The keyword that a word is. -/
def Keyword.of? (word : String) : Option Keyword :=
  (Keyword.table.find? fun e => e.1 == word).map Prod.snd

/-- A sign; `other` is one that no condition can contain. -/
inductive Sign where
  | plus | minus | times | over | floorOver | percent | matrixTimes | power
  | leftShift | rightShift | bitAnd | bitOr | bitXor | complement
  | less | greater | atMost | atLeast | equal | unequal
  | openRound | closeRound | openSquare | closeSquare | openCurly | closeCurly
  | comma | colon | dot | assign | define | ellipsis | other
deriving DecidableEq

/-- The signs, longer ones before their beginnings. -/
def Sign.table : List (List Char × Sign) := [
  (['.', '.', '.'], .ellipsis), (['*', '*', '='], .other), (['/', '/', '='], .other),
  (['>', '>', '='], .other), (['<', '<', '='], .other),
  (['!', '='], .unequal), (['%', '='], .other), (['&', '='], .other), (['*', '*'], .power),
  (['*', '='], .other), (['+', '='], .other), (['-', '='], .other), (['-', '>'], .other),
  (['/', '/'], .floorOver), (['/', '='], .other), ([':', '='], .define), (['<', '<'], .leftShift),
  (['<', '='], .atMost), (['<', '>'], .other), (['=', '='], .equal), (['>', '='], .atLeast),
  (['>', '>'], .rightShift), (['@', '='], .other), (['^', '='], .other), (['|', '='], .other),
  (['%'], .percent), (['&'], .bitAnd), (['('], .openRound), ([')'], .closeRound), (['*'], .times),
  (['+'], .plus), ([','], .comma), (['-'], .minus), (['.'], .dot), (['/'], .over), ([':'], .colon),
  ([';'], .other), (['<'], .less), (['='], .assign), (['>'], .greater), (['@'], .matrixTimes),
  (['['], .openSquare), ([']'], .closeSquare), (['^'], .bitXor), (['\x7b'], .openCurly),
  (['|'], .bitOr), (['\x7d'], .closeCurly), (['~'], .complement)]

/-- A token of a condition. -/
inductive Token where
  | name (s : String)
  | keyword (k : Keyword)
  | number (c : Constant)
  | text (s : String)
  | bytes (bs : List UInt8)
  | formatted (fields : List (List Char))
  | sign (s : Sign)
  | lineEnd
deriving DecidableEq

end Condition
end Walkthrough
