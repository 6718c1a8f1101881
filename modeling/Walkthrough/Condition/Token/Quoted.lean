/-
# Quoted texts in conditions

A text stands between single or double quotes, or between three of them, and then may have line feeds
in it. Letters in front of the quotes change what it is: `r` leaves backslashes alone, `b` makes it a
text of bytes, `f` gives it fields between braces, `u` changes nothing.

The fields of a text are only found here, with their brackets and quotes in balance.
-/

import Walkthrough.Condition.Token
import Walkthrough.Text.CharacterNames
import Walkthrough.Text.Search

namespace Walkthrough
namespace Condition

/-- What the letters in front of a quoted text say. -/
structure QuotedKind where
  raw : Bool := false
  bytes : Bool := false
  fields : Bool := false
deriving DecidableEq

/-- The kind that letters in front of a quote give, if they are such letters. -/
def QuotedKind.of? (letters : List Char) : Option QuotedKind :=
  match letters.map Char.toLower with
  | [] => some {}
  | ['u'] => some {}
  | ['r'] => some ⟨true, false, false⟩
  | ['b'] => some ⟨false, true, false⟩
  | ['f'] => some ⟨false, false, true⟩
  | ['b', 'r'] | ['r', 'b'] => some ⟨true, true, false⟩
  | ['f', 'r'] | ['r', 'f'] => some ⟨true, false, true⟩
  | _ => none

/-! ## The end of a quoted text -/

/-- Splits after the closing quote; a backslash protects the next character, and only a long text may
have line feeds. -/
def upToQuote? (mark : List Char) (long : Bool) : List Char → Option (List Char × List Char)
  | [] => none
  | c :: cs =>
    match Text.afterMark? mark (c :: cs) with
    | some rest => some ([], rest)
    | none =>
      if c == '\\' then
        match cs with
        | d :: cs => (upToQuote? mark long cs).map fun (body, rest) => (c :: d :: body, rest)
        | [] => none
      else if c == '\n' && !long then none
      else (upToQuote? mark long cs).map fun (body, rest) => (c :: body, rest)

/-- The characters between the quotes at the start of a text, and what follows. -/
def quotedBody? (cs : List Char) : Option (List Char × List Char) :=
  match cs with
  | q :: rest =>
    match Text.afterMark? [q, q, q] cs with
    | some rest => upToQuote? [q, q, q] true rest
    | none => upToQuote? [q] false rest
  | [] => none

/-! ## Escapes -/

/-- What a single letter after a backslash stands for. -/
def escapeLetter? : Char → Option Char
  | '\\' => some '\\'
  | '\'' => some '\''
  | '"' => some '"'
  | 'a' => some '\x07'
  | 'b' => some '\x08'
  | 'f' => some '\x0c'
  | 'n' => some '\n'
  | 'r' => some '\r'
  | 't' => some '\t'
  | 'v' => some '\x0b'
  | _ => none

/-- The value of a digit in base sixteen. -/
def hexValue? (c : Char) : Option Nat :=
  if c.isDigit then some (c.toNat - 48)
  else if 'a' ≤ c ∧ c ≤ 'f' then some (c.toNat - 87)
  else if 'A' ≤ c ∧ c ≤ 'F' then some (c.toNat - 55)
  else none

/-- A number of exactly `count` digits in base sixteen after `n`, and the rest. -/
def hexNumber? (n : Nat) : Nat → List Char → Option (Nat × List Char)
  | 0, cs => some (n, cs)
  | _ + 1, [] => none
  | count + 1, c :: cs =>
    match hexValue? c with
    | some d => hexNumber? (n * 16 + d) count cs
    | none => none

/-- A number of at most `count` more digits in base eight after `n`, and the rest. -/
def octalNumber (n : Nat) : Nat → List Char → Nat × List Char
  | 0, cs => (n, cs)
  | _ + 1, [] => (n, [])
  | count + 1, c :: cs =>
    if '0' ≤ c ∧ c ≤ '7' then octalNumber (n * 8 + (c.toNat - 48)) count cs else (n, c :: cs)

/-- The character with a number; half of a surrogate pair cannot stand alone and is replaced. -/
def characterOf? (n : Nat) : Option Char :=
  if n.isValidChar then some (Char.ofNat n)
  else if n < 0x110000 then some '\ufffd'
  else none

/-- The number of digits after an escape letter that takes digits in base sixteen. -/
def escapeWidth? (bytes : Bool) : Char → Option Nat
  | 'x' => some 2
  | 'u' => if bytes then none else some 4
  | 'U' => if bytes then none else some 8
  | _ => none

/-- The character whose name stands between braces, and what follows. -/
def named? : List Char → Option (Char × List Char)
  | '\x7b' :: cs =>
    match cs.dropWhile (· != '\x7d') with
    | _ :: rest => (Text.named? (cs.takeWhile (· != '\x7d'))).map fun c => (c, rest)
    | [] => none
  | _ => none

/-- The characters of a text with its escapes resolved, in at most `fuel` steps. A backslash before any
other character stands for itself, and one before a line feed joins the lines. -/
def unescape? (bytes : Bool) : Nat → List Char → Option (List Char)
  | 0, _ => some []
  | _ + 1, [] => some []
  | fuel + 1, '\\' :: c :: cs =>
    if c == '\n' then unescape? bytes fuel cs
    else match escapeLetter? c with
      | some d => (unescape? bytes fuel cs).map (d :: ·)
      | none =>
        if '0' ≤ c ∧ c ≤ '7' then do
          let (n, rest) := octalNumber 0 3 (c :: cs)
          let d ← characterOf? (if bytes then n % 256 else n)
          let more ← unescape? bytes fuel rest
          return d :: more
        else match escapeWidth? bytes c with
          | some width => do
            let (n, rest) ← hexNumber? 0 width cs
            let d ← characterOf? n
            let more ← unescape? bytes fuel rest
            return d :: more
          | none =>
            if c == 'N' && !bytes then do
              let (d, rest) ← named? cs
              let more ← unescape? bytes fuel rest
              return d :: more
            else (unescape? bytes fuel cs).map fun more => '\\' :: c :: more
  | fuel + 1, c :: cs => (unescape? bytes fuel cs).map (c :: ·)

/-! ## Fields -/

/-- The closing bracket for an opening one. -/
def closing? : Char → Option Char
  | '(' => some ')'
  | '[' => some ']'
  | '\x7b' => some '\x7d'
  | _ => none

/-- Whether a sign inside a field could begin a comparison. -/
def comparesWith (c : Char) (rest : List Char) : Bool :=
  (c == '!' || c == '=' || c == '<' || c == '>') && rest.head? == some '='

/-- The expression of a field up to its end, with the brackets that are open and the quotes that are
open: what it is and what follows. -/
def fieldText? (brackets : List Char) (quote : List Char) :
    Nat → List Char → Option (List Char × List Char)
  | 0, _ => none
  | _ + 1, [] => none
  | fuel + 1, c :: cs =>
    let keep := fun (p : List Char × List Char) => (c :: p.1, p.2)
    if c == '\\' then none
    else if !quote.isEmpty then
      match Text.afterMark? quote (c :: cs) with
      | some rest =>
        (fieldText? brackets [] fuel rest).map fun (body, more) => (quote ++ body, more)
      | none => (fieldText? brackets quote fuel cs).map keep
    else if c == '"' || c == '\'' then
      match Text.afterMark? [c, c, c] (c :: cs) with
      | some rest =>
        (fieldText? brackets [c, c, c] fuel rest).map fun (body, more) => (c :: c :: c :: body, more)
      | none => (fieldText? brackets [c] fuel cs).map keep
    else match closing? c with
      | some d => (fieldText? (d :: brackets) [] fuel cs).map keep
      | none =>
        if c == '#' then none
        else if brackets.isEmpty && comparesWith c cs then
          (fieldText? brackets [] fuel cs.tail).map fun (body, more) => (c :: '=' :: body, more)
        else if brackets.isEmpty && (c == '!' || c == ':' || c == '\x7d' || c == '=') then
          some ([], c :: cs)
        else if c == ')' || c == ']' || c == '\x7d' then
          match brackets with
          | d :: brackets => if c == d then (fieldText? brackets [] fuel cs).map keep else none
          | [] => none
        else (fieldText? brackets [] fuel cs).map keep

/-- Drops blanks after the sign that makes a field show itself. -/
def dropEquals : List Char → List Char
  | '=' :: cs => cs.dropWhile fun c => c == ' ' || c == '\t' || c == '\n' || c == '\x0c'
  | cs => cs

/-- Drops the mark of a conversion, which is one of three letters. -/
def dropConversion? : List Char → Option (List Char)
  | '!' :: c :: cs => if c == 's' || c == 'r' || c == 'a' then some cs else none
  | ['!'] => none
  | cs => some cs

/-- The fields of a text. `depth` is the number of fields around the place; inside one a closing brace
ends the text. The result is the fields in order and what is left over. -/
def fieldsIn? (depth : Nat) : Nat → List Char → Option (List (List Char) × List Char)
  | 0, _ => none
  | _ + 1, [] => some ([], [])
  | fuel + 1, '\x7b' :: cs =>
    if depth == 0 && cs.head? == some '\x7b' then fieldsIn? depth fuel cs.tail
    else if depth ≥ 2 then none
    else do
      let (body, rest) ← fieldText? [] [] (cs.length + 1) cs
      if body.all fun c => c == ' ' || c == '\t' || c == '\n' || c == '\x0c' || c == '\r' then none
      else do
        let rest ← dropConversion? (dropEquals rest)
        let (inner, rest) ← match rest with
          | ':' :: rest => fieldsIn? (depth + 1) fuel rest
          | rest => some ([], rest)
        match rest with
        | '\x7d' :: rest =>
          let (more, rest) ← fieldsIn? depth fuel rest
          return (body :: inner ++ more, rest)
        | _ => none
  | fuel + 1, '\x7d' :: cs =>
    if depth > 0 then some ([], '\x7d' :: cs)
    else if cs.head? == some '\x7d' then fieldsIn? depth fuel cs.tail
    else none
  | fuel + 1, _ :: cs => fieldsIn? depth fuel cs

/-- The fields of a whole text. -/
def fields? (cs : List Char) : Option (List (List Char)) :=
  match fieldsIn? 0 (cs.length + 1) cs with
  | some (fields, []) => some fields
  | _ => none

/-! ## The token -/

/-- The token of a quoted text. -/
def quotedToken? (kind : QuotedKind) (body : List Char) : Option Token :=
  if kind.fields then (fields? body).map Token.formatted
  else if kind.bytes && body.any (fun c => c.toNat ≥ 128) then none
  else do
    let cs ← if kind.raw then some body else unescape? kind.bytes body.length body
    return if kind.bytes then .bytes (cs.map fun c => c.toNat.toUInt8) else .text (String.ofList cs)

end Condition
end Walkthrough
