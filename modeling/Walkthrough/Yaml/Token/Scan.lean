/-
# Splitting a YAML text into tokens

A plain or quoted scalar, an alias or a collection in brackets can turn out to be the key of an entry:
only the colon behind it tells. So the place of such a token is remembered as a candidate, one at each
depth of brackets, and the token for the key is put in front of it when the colon comes. A candidate
must stand on one line and within 1024 characters; where the indentation says that a key has to come it
is an error if no colon does.

A text that is refused still has the tokens in front of the refusal, but for those that wait for a
colon: a reader of the tokens may find another fault among them first.
-/

import Walkthrough.Yaml.Token.Block
import Walkthrough.Yaml.Token.Quoted
import Walkthrough.Yaml.Token.Tag

namespace Walkthrough
namespace Yaml

/-- A token that may be a key: the number of tokens before it, its place, and whether it has to be a
key. -/
structure Candidate where
  tokens : Nat
  index : Nat
  line : Nat
  column : Nat
  required : Bool

/-- The state between two tokens: the tokens so far, the depth of brackets, the columns of the open block
collections, the innermost first, whether a key may start here, and the candidates by depth. -/
structure Scanner where
  cursor : Cursor
  tokens : Array Token := #[]
  depth : Nat := 0
  indents : List Nat := []
  allowsKey : Bool := true
  candidates : List (Nat × Candidate) := []
  done : Bool := false

namespace Scanner

/-- The refusal of a text. -/
def refused {α : Type} : Except Failure α := .error (.markup .token)

/-- How far apart a key and its colon may be. -/
def maxKey : Nat := 1024

/-- The least column for the content of the innermost block collection. -/
def least (s : Scanner) : Nat :=
  match s.indents with
  | [] => 0
  | column :: _ => column + 1

/-- Adds a token. -/
def push (s : Scanner) (t : Token) : Scanner := { s with tokens := s.tokens.push t }

/-- Whether a key may or may not start after the next token. -/
def allow (s : Scanner) (allowsKey : Bool) : Scanner := { s with allowsKey }

/-- Runs a reader of a part of the text. -/
def read {α : Type} (s : Scanner) (r : Scan α) : Except Failure (α × Scanner) := do
  let (a, cursor) ← r.run s.cursor
  return (a, { s with cursor })

/-- Adds a token of `n` characters. -/
def mark (s : Scanner) (t : Token) (n : Nat) : Scanner :=
  { s with tokens := s.tokens.push t, cursor := s.cursor.skip n }

/-! ## Candidates -/

/-- Whether a candidate is too far away to be a key. -/
def isStale (s : Scanner) (c : Candidate) : Bool :=
  c.line != s.cursor.line || s.cursor.index > c.index + maxKey

/-- Drops the candidates that are too far away. -/
def dropStale (s : Scanner) : Except Failure Scanner :=
  if s.candidates.any fun c => s.isStale c.2 && c.2.required then refused
  else .ok { s with candidates := s.candidates.filter fun c => !s.isStale c.2 }

/-- Drops the candidate at the present depth. -/
def dropCandidate (s : Scanner) : Except Failure Scanner :=
  if s.candidates.any fun c => c.1 == s.depth && c.2.required then refused
  else .ok { s with candidates := s.candidates.filter fun c => c.1 != s.depth }

/-- Remembers the next token as a candidate. -/
def saveCandidate (s : Scanner) : Except Failure Scanner := do
  if !s.allowsKey then return s
  let c := s.cursor
  let required := s.depth == 0 && s.indents.head? == some c.column
  let s ← s.dropCandidate
  return { s with candidates :=
    (s.depth, ⟨s.tokens.size, c.index, c.line, c.column, required⟩) :: s.candidates }

/-! ## Indentation -/

/-- Closes the block collections that are indented by more than `column`. -/
def closeBeyond (column : Nat) : List Nat → Array Token → List Nat × Array Token
  | [], tokens => ([], tokens)
  | indent :: rest, tokens =>
    if column < indent then closeBeyond column rest (tokens.push .blockEnd)
    else (indent :: rest, tokens)

/-- Closes the block collections to the right of a column. -/
def unwind (s : Scanner) (column : Nat) : Scanner :=
  if s.depth != 0 then s
  else
    let (indents, tokens) := closeBeyond column s.indents s.tokens
    { s with indents, tokens }

/-- Closes all block collections. -/
def unwindAll (s : Scanner) : Scanner :=
  if s.depth != 0 then s
  else { s with indents := [], tokens := s.tokens ++ s.indents.map fun _ => Token.blockEnd }

/-- Opens a block collection at a column unless one is open there. -/
def indentTo (s : Scanner) (column : Nat) : Scanner × Bool :=
  if s.least ≤ column then ({ s with indents := column :: s.indents }, true) else (s, false)

/-- Opens a block collection here unless one is open. -/
def openBlock (s : Scanner) (t : Token) : Scanner :=
  match s.indentTo s.cursor.column with
  | (s, true) => s.push t
  | (s, false) => s

/-! ## Tokens -/

/-- Moves over spaces, comments and line breaks, in at most `fuel` steps. A key may start on each new
line outside of brackets. -/
def toNext (s : Scanner) : Nat → Except Failure Scanner
  | 0 => .ok s
  | fuel + 1 => do
    let (broken, s) ← s.read do
      if (← get).index == 0 && (← Scan.peek) == some '\ufeff' then Scan.forward 1
      Scan.spaces
      if (← Scan.peek) == some '#' then
        let _ ← Scan.takeWhile fun c => !isBreak c
      return (← Scan.lineBreak).isSome
    if broken then toNext (if s.depth == 0 then s.allow true else s) fuel else return s

/-- A token at which all block collections end. -/
def boundary (s : Scanner) (r : Scan Token) : Except Failure Scanner := do
  let s ← s.unwindAll.dropCandidate
  let (t, s) ← (s.allow false).read r
  return s.push t

/-- The end of the text. -/
def atEnd (s : Scanner) : Except Failure Scanner := do
  let s ← s.unwindAll.dropCandidate
  return { s.push .textEnd with done := true, candidates := [] }

/-- A separator of documents. -/
def separator (t : Token) : Scan Token := do
  Scan.forward 3
  return t

/-- An opening bracket. -/
def openBracket (s : Scanner) (t : Token) : Except Failure Scanner := do
  let s ← s.saveCandidate
  return { (s.allow true).mark t 1 with depth := s.depth + 1 }

/-- A closing bracket. -/
def closeBracket (s : Scanner) (t : Token) : Except Failure Scanner := do
  let s ← s.dropCandidate
  return { (s.allow false).mark t 1 with depth := s.depth - 1 }

/-- The sign in front of the item of a block list. -/
def item (s : Scanner) : Except Failure Scanner := do
  if s.depth == 0 && !s.allowsKey then refused
  else
    let s := if s.depth == 0 then s.openBlock .listStart else s
    let s ← (s.allow true).dropCandidate
    return s.mark .item 1

/-- The sign in front of a key. -/
def key (s : Scanner) : Except Failure Scanner := do
  if s.depth == 0 && !s.allowsKey then refused
  else
    let s := if s.depth == 0 then s.openBlock .dictStart else s
    let s ← (s.allow (s.depth == 0)).dropCandidate
    return s.mark .key 1

/-- Puts tokens in front of a candidate. -/
def putBefore (s : Scanner) (c : Candidate) (ts : Array Token) : Scanner :=
  { s with tokens := s.tokens.extract 0 c.tokens ++ ts ++ s.tokens.extract c.tokens s.tokens.size }

/-- The colon in front of a value: it makes the candidate before it a key. -/
def value (s : Scanner) : Except Failure Scanner := do
  match s.candidates.lookup s.depth with
  | some c =>
    let s := { s with candidates := s.candidates.filter fun c => c.1 != s.depth }
    let (s, opened) := if s.depth == 0 then s.indentTo c.column else (s, false)
    let s := s.putBefore c (if opened then #[.dictStart, .key] else #[.key])
    return (s.allow false).mark .value 1
  | none =>
    if s.depth == 0 && !s.allowsKey then refused
    else
      let s := if s.depth == 0 then s.openBlock .dictStart else s
      let s ← (s.allow (s.depth == 0)).dropCandidate
      return s.mark .value 1

/-- A token that may be a key. -/
def content (s : Scanner) (r : Scan Token) : Except Failure Scanner := do
  let s ← s.saveCandidate
  let (t, s) ← (s.allow false).read r
  return s.push t

/-- A block scalar. -/
def blockText (s : Scanner) (folds : Bool) : Except Failure Scanner := do
  let s ← (s.allow true).dropCandidate
  let (text, s) ← s.read (Block.scan folds s.least)
  return s.push (.scalar text false)

/-- A plain scalar; a key may start after it if its line ended. -/
def plainText (s : Scanner) : Except Failure Scanner := do
  let s ← s.saveCandidate
  let ((text, broken), s) ← s.read (Plain.scan s.least (s.depth != 0))
  return (s.allow broken).push (.scalar text true)

/-- Whether a plain scalar can start with these characters. -/
def startsPlain (inFlow : Bool) (c : Char) (next : Option Char) : Bool :=
  if c == '-' then !endsWord next
  else if c == '?' || c == ':' then !inFlow && !endsWord next
  else !endsWord (some c) && !(",[]\x7b\x7d#&*!|>'\"%@\u0060".toList.contains c)

/-- Adds the next token. -/
def next (s : Scanner) (c : Char) : Except Failure Scanner :=
  let second := s.cursor.rest.tail.head?
  let flow := s.depth != 0
  let atStart := s.cursor.column == 0
  if c == '%' && atStart then s.boundary Tag.directive
  else if c == '-' && atStart && s.cursor.atSeparator then s.boundary (separator .documentStart)
  else if c == '.' && atStart && s.cursor.atSeparator then s.boundary (separator .documentEnd)
  else if c == '[' then s.openBracket .openSquare
  else if c == '\x7b' then s.openBracket .openCurly
  else if c == ']' then s.closeBracket .closeSquare
  else if c == '\x7d' then s.closeBracket .closeCurly
  else if c == ',' then do
    let s ← (s.allow true).dropCandidate
    return s.mark .comma 1
  else if c == '-' && endsWord second then s.item
  else if c == '?' && (flow || endsWord second) then s.key
  else if c == ':' && (flow || endsWord second) then s.value
  else if c == '*' then s.content (Token.alias <$> Tag.anchor)
  else if c == '&' then s.content (Token.anchor <$> Tag.anchor)
  else if c == '!' then s.content Tag.tag
  else if c == '|' && !flow then s.blockText false
  else if c == '>' && !flow then s.blockText true
  else if c == '\'' then s.content ((Token.scalar · false) <$> Quoted.scan false)
  else if c == '"' then s.content ((Token.scalar · false) <$> Quoted.scan true)
  else if startsPlain flow c second then s.plainText
  else refused

/-- Adds the tokens at the next place with text. -/
def advance (s : Scanner) : Except Failure Scanner := do
  let s ← s.toNext (s.cursor.rest.length + 1)
  let s := (← s.dropStale).unwind s.cursor.column
  match s.cursor.rest with
  | [] => s.atEnd
  | c :: _ => s.next c

/-- The tokens that do not wait for a colon. -/
def settled (s : Scanner) : List Token :=
  let waiting := s.candidates.map fun c => c.2.tokens
  s.tokens.toList.take (waiting.foldl min s.tokens.size)

/-- The tokens of the rest of the text in at most `fuel` steps, and why it was refused, if it was. -/
def run : Nat → Scanner → List Token × Option Failure
  | 0, s => (s.tokens.toList, some (.markup .token))
  | fuel + 1, s =>
    if s.done then (s.tokens.toList, none)
    else match s.advance with
      | .error e => (s.settled, some e)
      | .ok t =>
        match t.dropStale with
        | .error e => (s.settled, some e)
        | .ok t => run fuel t

end Scanner

/-- **The tokens** of a text, and why it was refused behind them, if it was. -/
def tokens (text : List Char) : List Token × Option Failure :=
  Scanner.run (text.length + 2) { cursor := ⟨text, 0, 0, 0⟩ }

end Yaml
end Walkthrough
