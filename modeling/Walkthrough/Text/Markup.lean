/-
# Markup

Plain text inside markup: the five characters with a meaning in markup are written as entities, and a
line feed becomes a line break element.
-/

namespace Walkthrough
namespace Text

/-- The entity of a character with a meaning in markup, and the character itself otherwise. -/
def escapeChar (c : Char) : List Char :=
  if c = '&' then "&amp;".toList
  else if c = '<' then "&lt;".toList
  else if c = '>' then "&gt;".toList
  else if c = '"' then "&quot;".toList
  else if c = '\'' then "&#x27;".toList
  else [c]

/-- Plain text as it stands inside markup. -/
def escapeMarkup (cs : List Char) : List Char := cs.flatMap escapeChar

/-- Line feeds as line break elements. -/
def breakLines (cs : List Char) : List Char :=
  cs.flatMap fun c => if c = '\n' then "<br/>".toList else [c]

end Text
end Walkthrough
