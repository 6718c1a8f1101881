/-
# The tokens of YAML

A block collection starts where the text is indented further and ends where it is indented less; the
tokens `listStart`, `dictStart` and `blockEnd` stand for that. Collections in brackets have tokens for
their brackets.
-/

namespace Walkthrough
namespace Yaml

/-- A token. -/
inductive Token where
  | version (major : Nat)
  | handle (name replacement : String)
  | otherDirective
  | documentStart
  | documentEnd
  | textEnd
  | listStart
  | dictStart
  | blockEnd
  | openSquare
  | closeSquare
  | openCurly
  | closeCurly
  | comma
  | item
  | key
  | value
  | alias (name : String)
  | anchor (name : String)
  | tag (handle : Option String) (suffix : String)
  | scalar (text : String) (plain : Bool)
deriving DecidableEq, Inhabited

/-- Whether a token is a directive. -/
def Token.isDirective : Token → Bool
  | .version _ | .handle _ _ | .otherDirective => true
  | _ => false

end Yaml
end Walkthrough
