/-
# The header of a condition

A condition may start with a header that gives names to properties: `(color=10, count=11) …`. A text has a
header if, apart from blanks, it starts with a bracket that is closed at once or that is followed by a
word and a single equals sign. The header ends at the first closing bracket, and spaces in it do not
count.
-/

import Walkthrough.Condition.Term
import Walkthrough.Number.Numeral
import Walkthrough.Text.Search
import Walkthrough.Text.Word

namespace Walkthrough
namespace Condition

/-- The names of a header with the numbers of their properties, and the expression after it. -/
structure Headed where
  bindings : OrderedMap String Int
  body : List Char

/-- Whether a text goes on with a single equals sign, blanks before it allowed. -/
def assigns (cs : List Char) : Bool :=
  match cs.dropWhile Text.isBlankChar with
  | '=' :: '=' :: _ => false
  | '=' :: _ => true
  | _ => false

/-- Whether a text without blanks around it starts with a header. -/
def startsHeader : List Char → Bool
  | '(' :: cs =>
    match cs.dropWhile Text.isBlankChar with
    | ')' :: _ => true
    | c :: rest => Text.isWordChar c && assigns (rest.dropWhile Text.isWordChar)
    | [] => false
  | _ => false

/-- Whether a text can be the name of a property in a condition; a line feed may follow the name. -/
def isBindingName (cs : List Char) : Bool :=
  match cs with
  | c :: rest =>
    Text.isLatinNameStart c &&
      (match rest.dropWhile Text.isLatinNameChar with
        | [] => true
        | ['\n'] => true
        | _ => false)
  | [] => false

/-- The number of a property in a header. -/
def bindingId? (code : String) : Option Int := (Number.readInt? code).filter fun n => 0 < n

/-- Adds one item of a header to the bindings before it. -/
def bind (bindings : OrderedMap String Int) (item : List Char) :
    Except ConditionFault (OrderedMap String Int) :=
  match Text.splitOnChar '=' item with
  | [name, code] =>
    let name_ := String.ofList name
    let code := String.ofList code
    if !isBindingName name || (Builtin.ofName? name_).isSome then .error (.badName name_)
    else if bindings.contains name_ then .error (.repeatedName name_)
    else match bindingId? code with
      | some id => .ok (bindings.insert name_ id)
      | none => .error (.badCode code)
  | _ => .error .badParameters

/-- The bindings of a header without its brackets and spaces. -/
def bindings (header : List Char) : Except ConditionFault (OrderedMap String Int) :=
  if header.isEmpty then .ok .empty else (Text.splitOnChar ',' header).foldlM bind .empty

/-- **Splitting a condition** into the bindings of its header and its expression; without a header the
whole text is the expression. -/
def split (text : String) : Except ConditionFault Headed :=
  let stripped := Text.trim text.toList
  if !startsHeader stripped then .ok ⟨.empty, stripped⟩
  else match Text.splitAt? [')'] (stripped.drop 1) with
    | none => .error .unclosedHeader
    | some (header, rest) => do
      let found ← bindings (header.filter (· != ' '))
      let body := Text.trim rest
      if body.isEmpty then .error .emptyExpression else .ok ⟨found, body⟩

end Condition
end Walkthrough
