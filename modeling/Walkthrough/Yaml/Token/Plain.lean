/-
# Plain scalars

A plain scalar is a text without quotes. It ends before a colon or a comment that stands apart, in
brackets also before punctuation, and where a line is not indented further than the collection around
it. Line breaks are folded: one becomes a space, and of several all but the first are kept.
-/

import Walkthrough.Yaml.Cursor

namespace Walkthrough
namespace Yaml
namespace Plain

/-- Punctuation that ends a plain scalar in brackets. -/
def isFlowMark (c : Char) : Bool := c == ',' || c == '?' || c == '[' || c == ']' || c == '\x7b' ||
  c == '\x7d'

/-- Whether a colon before this character ends a plain scalar. -/
def endsKey (inFlow : Bool) (next : Option Char) : Bool :=
  endsWord next || (inFlow && next.any fun c => isFlowMark c && c != '?')

/-- The next part of a plain scalar up to a gap. -/
def word (inFlow : Bool) : List Char → List Char
  | [] => []
  | c :: rest =>
    if endsWord (some c) || (c == ':' && endsKey inFlow rest.head?) || (inFlow && isFlowMark c) then []
    else c :: word inFlow rest

/-- Moves over empty lines and the spaces of the next one; the result is `none` at a separator of
documents. -/
def emptyLines : Nat → Scan (Option (List Char))
  | 0 => return some []
  | fuel + 1 => do
    let _ ← Scan.spaces
    match ← Scan.lineBreak with
    | none => return some []
    | some c =>
      if (← get).atSeparator then return none
      else return (← emptyLines fuel).map (c :: ·)

/-- A line break and empty lines, folded. -/
def folded (first : Char) (more : List Char) : List Char :=
  if first != '\n' then first :: more else if more.isEmpty then [' '] else more

/-- The gap after a word, folded, and whether a line ended in it. -/
def gap : Scan (List Char × Bool) := do
  let spaces ← Scan.takeWhile (· == ' ')
  match ← Scan.lineBreak with
  | none => return (spaces, false)
  | some first =>
    if (← get).atSeparator then return ([], true)
    else match ← emptyLines (← get).rest.length with
      | none => return ([], true)
      | some more => return (folded first more, true)

/-- The words of a plain scalar from here on, with the gap before them, in at most `fuel` steps. -/
def words (indent : Nat) (inFlow : Bool) : Nat → List Char → Bool → Scan (List Char × Bool)
  | 0, _, broken => return ([], broken)
  | fuel + 1, before, broken => do
    let text := word inFlow (← get).rest
    if (← Scan.peek) == some '#' || text.isEmpty then return ([], broken)
    Scan.forward text.length
    let (after, broken) ← gap
    if after.isEmpty || (← Scan.peek) == some '#' || (!inFlow && (← get).column < indent) then
      return (before ++ text, broken)
    else
      let (more, broken) ← words indent inFlow fuel after broken
      return (before ++ text ++ more, broken)

/-- **A plain scalar** inside of a collection that is indented by less than `indent`, and whether a line
ended after it. -/
def scan (indent : Nat) (inFlow : Bool) : Scan (String × Bool) := do
  let (text, broken) ← words indent inFlow ((← get).rest.length + 1) [] false
  return (String.ofList text, broken)

end Plain
end Yaml
end Walkthrough
