/-
# Lower case

The lower-case form of a text, for all scripts. Two rules go beyond single characters: the capital
dotted I becomes two characters, and a capital sigma at the end of a word becomes the final form.
-/

import Walkthrough.Text.CaseTable

namespace Walkthrough
namespace Text

/-- Whether a run of characters with lower-case images holds a code point. -/
def CaseRun.holds (r : CaseRun) (n : Nat) : Bool :=
  r.first ≤ n && n ≤ r.last && (n - r.first) % r.step == 0

/-- The lower-case image of a character that has one of one character, and the character itself
otherwise. -/
def lowerChar (c : Char) : Char :=
  if c.isUpper then Char.ofNat (c.toNat + 32)
  else if c.toNat < 128 then c
  else match caseRuns.find? (·.holds c.toNat) with
    | some r => Char.ofNat (Int.toNat (c.toNat + r.shift))
    | none => c

/-- A character that has case and does not attach to others. -/
def isCased (c : Char) : Bool :=
  if c.toNat < 128 then c.isAlpha else inClass casedBoundaries c

/-- A character that attaches to a word without having case of its own. -/
def isAttaching (c : Char) : Bool := inClass attachingBoundaries c

/-- Whether a word reaches up to this place: the next character that does not attach has case. -/
def meetsWord (cs : List Char) : Bool :=
  match cs.dropWhile isAttaching with
  | c :: _ => isCased c
  | [] => false

/-- Lower case of the rest of a text; `before` holds the characters before it, nearest first. -/
def lowerAfter (before : List Char) : List Char → List Char
  | [] => []
  | c :: rest =>
    let image :=
      if c == 'Σ' then
        if meetsWord before && !meetsWord rest then ['ς'] else ['σ']
      else if c == 'İ' then ['i', Char.ofNat 0x307]
      else [lowerChar c]
    image ++ lowerAfter (c :: before) rest

/-- The lower-case form of a text. -/
def lower (s : String) : String := String.ofList (lowerAfter [] s.toList)

/-- The upper-case form as far as it can be a name in Latin capitals. -/
def upperLatin (s : String) : String :=
  s.map fun c => if c == 'ı' then 'I' else if c == 'ſ' then 'S' else c.toUpper

end Text
end Walkthrough
