/-
# Names in YAML: anchors, tags and directives
-/

import Walkthrough.Number.Numeral
import Walkthrough.Yaml.Cursor
import Walkthrough.Yaml.Token

namespace Walkthrough
namespace Yaml
namespace Tag

/-- The name of an anchor, from the sign in front of it on. -/
def anchor : Scan String := do
  Scan.forward 1
  let name ← Scan.takeWhile isHandleChar
  let next ← Scan.peek
  let ends := endsWord next || next.any fun c => "?:,]\x7d%@\u0060".toList.contains c
  if name.isEmpty || !ends then Scan.refuse else return String.ofList name

/-- Whether a character can stand in a tag as it is. -/
def isTagChar (c : Char) : Bool :=
  c.isAlphanum || "-;/?:@&=+$,_.!~*'()[]".toList.contains c

/-- The bytes of escapes, two digits each, in at most `fuel` steps. -/
def escapedBytes : Nat → Scan (List UInt8)
  | 0 => return []
  | fuel + 1 => do
    if (← Scan.peek) != some '%' then return []
    Scan.forward 1
    match (← get).rest with
    | a :: b :: _ =>
      match Number.digitBelow? 16 a, Number.digitBelow? 16 b with
      | some x, some y =>
        if a.toNat < 128 && b.toNat < 128 then
          Scan.forward 2
          return UInt8.ofNat (x * 16 + y) :: (← escapedBytes fuel)
        else Scan.refuse
      | _, _ => Scan.refuse
    | _ => Scan.refuse

/-- The characters of a tag, in at most `fuel` steps. -/
def tagChars : Nat → Scan (List Char)
  | 0 => return []
  | fuel + 1 => do
    match ← Scan.peek with
    | none => return []
    | some c =>
      if c == '%' then
        let bytes ← escapedBytes fuel
        match String.fromUTF8? ⟨bytes.toArray⟩ with
        | none => Scan.refuse
        | some s => return s.toList ++ (← tagChars fuel)
      else if isTagChar c then
        Scan.forward 1
        return c :: (← tagChars fuel)
      else return []

/-- A tag without its handle, which must not be empty. -/
def suffix : Scan String := do
  let start := (← get).index
  let text ← tagChars ((← get).rest.length + 1)
  if (← get).index == start then Scan.refuse else return String.ofList text

/-- A handle: an exclamation mark, or a name between two. -/
def handle : Scan String := do
  match (← get).rest with
  | '!' :: rest =>
    if rest.head? == some ' ' then
      Scan.forward 1
      return "!"
    else
      let name := rest.takeWhile isHandleChar
      if (rest.drop name.length).head? == some '!' then
        Scan.forward (name.length + 2)
        return "!" ++ String.ofList name ++ "!"
      else Scan.refuse
  | _ => Scan.refuse

/-- **A tag**, from its exclamation mark on. -/
def tag : Scan Token := do
  let rest := (← get).rest.tail
  let token ←
    if rest.head? == some '<' then do
      Scan.forward 2
      let s ← suffix
      if (← Scan.peek) != some '>' then Scan.refuse
      Scan.forward 1
      pure (Token.tag none s)
    else if endsWord rest.head? then do
      Scan.forward 1
      pure (Token.tag none "!")
    else if (rest.takeWhile fun c => !endsPart (some c)).contains '!' then do
      let h ← handle
      pure (Token.tag (some h) (← suffix))
    else do
      Scan.forward 1
      pure (Token.tag (some "!") (← suffix))
  if endsPart (← Scan.peek) then return token else Scan.refuse

/-! ## Directives -/

/-- The digits of a number. -/
def digits : Scan (List Char) := do
  let text ← Scan.takeWhile Char.isDigit
  if text.isEmpty then Scan.refuse else return text

/-- The version of a directive. -/
def version : Scan Token := do
  Scan.spaces
  let major ← digits
  if (← Scan.peek) != some '.' then Scan.refuse
  Scan.forward 1
  let _ ← digits
  if endsPart (← Scan.peek) then return .version ((Number.natIn? 10 major).getD 0) else Scan.refuse

/-- The handle of a directive and what it stands for. -/
def handleDirective : Scan Token := do
  Scan.spaces
  let name ← handle
  if (← Scan.peek) != some ' ' then Scan.refuse
  Scan.spaces
  let replacement ← suffix
  if endsPart (← Scan.peek) then return .handle name replacement else Scan.refuse

/-- **A directive**, from its percent sign on, with the rest of its line. -/
def directive : Scan Token := do
  Scan.forward 1
  let name ← Scan.takeWhile isHandleChar
  if name.isEmpty || !endsPart (← Scan.peek) then Scan.refuse
  let token ←
    if name == "YAML".toList then version
    else if name == "TAG".toList then handleDirective
    else do
      let _ ← Scan.takeWhile fun c => !isBreak c
      pure Token.otherDirective
  Scan.endOfLine
  return token

end Tag
end Yaml
end Walkthrough
