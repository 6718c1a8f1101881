/-
# Splitting a condition into tokens

Blanks divide tokens. A line feed ends the condition unless a bracket is open; lines of blanks and
comments may stand before it and after it. A backslash at the end of a line joins the next one.
-/

import Walkthrough.Condition.Token.Number
import Walkthrough.Condition.Token.Quoted
import Walkthrough.Text.LatinTable
import Walkthrough.Text.Word

namespace Walkthrough
namespace Condition

/-- How many brackets can be open at one time. -/
def maxBrackets : Nat := 200

/-- Whether a character divides tokens. -/
def isSpace (c : Char) : Bool := c == ' ' || c == '\t' || c == '\x0c'

/-- Whether a character can stand in a name; those beyond ASCII are looked at afterwards. -/
def isNameLike (c : Char) : Bool := c.isAlphanum || c == '_' || c.toNat ≥ 128

/-- The keyword or the name that a word is, if it is well formed. Keywords have to be spelt as they are; names
are the same if they stand for the same Latin characters. -/
def wordToken? (word : List Char) : Option Token :=
  match word with
  | [] => none
  | c :: rest =>
    if Text.isNameStart c && rest.all Text.isNameChar then
      some (match Keyword.of? (String.ofList word) with
        | some k => .keyword k
        | none => .name (Text.latinName word))
    else none

/-- The sign in front of a text, and the rest. -/
def sign? (cs : List Char) : Option (Sign × List Char) :=
  Sign.table.findSome? fun (mark, s) => (Text.afterMark? mark cs).map fun rest => (s, rest)

/-- The brackets that are open after a sign, if it fits those open before it. -/
def Sign.brackets? (s : Sign) (brackets : List Sign) : Option (List Sign) :=
  match s with
  | .openRound => if brackets.length < maxBrackets then some (.closeRound :: brackets) else none
  | .openSquare => if brackets.length < maxBrackets then some (.closeSquare :: brackets) else none
  | .openCurly => if brackets.length < maxBrackets then some (.closeCurly :: brackets) else none
  | .closeRound | .closeSquare | .closeCurly =>
    match brackets with
    | t :: brackets => if s = t then some brackets else none
    | [] => none
  | _ => some brackets

/-- The next token of a text that does not start with a blank, a comment or a line feed, and the
rest. -/
def token? (cs : List Char) : Option (Token × List Char) :=
  match cs with
  | [] => none
  | c :: rest =>
    if c.isDigit || (c == '.' && (rest.head?.map Char.isDigit).getD false) then
      (number? cs).map fun (n, rest) => (.number n, rest)
    else if c == '"' || c == '\'' then do
      let (body, rest) ← quotedBody? cs
      let t ← quotedToken? {} body
      return (t, rest)
    else if isNameLike c then
      let word := cs.takeWhile isNameLike
      let rest := cs.dropWhile isNameLike
      let quoted := match rest with
        | q :: _ => q == '"' || q == '\''
        | [] => false
      match if quoted then QuotedKind.of? word else none with
      | some kind => do
        let (body, rest) ← quotedBody? rest
        let t ← quotedToken? kind body
        return (t, rest)
      | none => (wordToken? word).map fun t => (t, rest)
    else (sign? cs).map fun (s, rest) => (.sign s, rest)

/-- The tokens of a text, in at most `fuel` steps, the brackets given that are open. -/
def tokensIn? (brackets : List Sign) : Nat → List Char → Option (List Token)
  | 0, _ => none
  | _ + 1, [] => if brackets.isEmpty then some [] else none
  | fuel + 1, c :: cs =>
    if isSpace c then tokensIn? brackets fuel cs
    else if c == '#' then tokensIn? brackets fuel (cs.dropWhile fun d => d != '\n')
    else if c == '\n' then
      if brackets.isEmpty then (tokensIn? brackets fuel cs).map (.lineEnd :: ·)
      else tokensIn? brackets fuel cs
    else if c == '\\' then
      match cs with
      | '\n' :: d :: rest => tokensIn? brackets fuel (d :: rest)
      | _ => none
    else match token? (c :: cs) with
      | none => none
      | some (.sign s, rest) =>
        match s.brackets? brackets with
        | some brackets => (tokensIn? brackets fuel rest).map (.sign s :: ·)
        | none => none
      | some (t, rest) => (tokensIn? brackets fuel rest).map (t :: ·)

/-- Line ends of all kinds as line feeds. -/
def unifyLineEnds : List Char → List Char
  | [] => []
  | '\r' :: '\n' :: cs => '\n' :: unifyLineEnds cs
  | '\r' :: cs => '\n' :: unifyLineEnds cs
  | c :: cs => c :: unifyLineEnds cs

/-- A line from its first character that is not blank, and whether it is indented. Joined lines are
indented if one of those before the last is, or else if the last is; a form feed takes the indentation of
its line back. -/
def margin? (indented joined : Bool) : List Char → Option (Bool × List Char)
  | '\x0c' :: cs => margin? false joined cs
  | '\\' :: '\n' :: c :: cs => margin? indented (joined || indented) (c :: cs)
  | c :: cs =>
    if c == ' ' || c == '\t' then margin? true joined cs
    else if c == '\\' then none
    else some (joined || indented, c :: cs)
  | [] => some (joined || indented, [])

/-- The text after lines of blanks and comments only; its first line must not be indented. -/
def afterBlankLines? : Nat → List Char → Option (List Char)
  | 0, cs => some cs
  | fuel + 1, cs => do
    let (indented, cs) ← margin? false false cs
    match cs with
    | '#' :: rest => afterBlankLines? fuel ((rest.dropWhile fun c => c != '\n').drop 1)
    | '\n' :: rest => afterBlankLines? fuel rest
    | cs => if indented then none else some cs

/-- The tokens of a whole text. -/
def tokens? (cs : List Char) : Option (List Token) := do
  let cs ← afterBlankLines? cs.length (unifyLineEnds cs)
  tokensIn? [] (cs.length + 1) cs

end Condition
end Walkthrough
