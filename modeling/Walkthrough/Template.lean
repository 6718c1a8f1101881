/-
# Text templates

A template refers to properties by number between an opening and a closing mark. Tags are found from left
to right: at each place the opening mark is tried, then as few characters as possible up to a closing mark,
and the search goes on behind a tag that was found; everything else is literal.

Filling in a template is all or nothing: every tag is looked up before anything is replaced. Then the tags
are replaced from the last to the first, so that the places of those before stay valid. In rich text a value
is escaped and set in bold, and line feeds become line breaks at the end.
-/

import Walkthrough.Error.Basic
import Walkthrough.Text.Markup

namespace Walkthrough

/-- The marks around a property number in a template. -/
structure Marks where
  opening : String := "\x7b\x7b"
  closing : String := "\x7d\x7d"
deriving DecidableEq, Inhabited

namespace Template

/-! ## Finding tags -/

/-- A tag of a text: the place where it starts, the place where it ends, and the text between its marks. -/
abbrev Tag := Nat × Nat × String

namespace Tag

/-- The place of the first character. -/
abbrev start (t : Tag) : Nat := t.1

/-- The place behind the last character. -/
abbrev stop (t : Tag) : Nat := t.2.1

/-- The text between the marks. -/
abbrev inner (t : Tag) : String := t.2.2

end Tag

/-- The inner text of the tag at the start of a text: as few characters as possible between the opening
mark and a closing mark. -/
def innerAt? (opening closing cs : List Char) : Option (List Char) :=
  (Text.afterMark? opening cs).bind fun rest => (Text.splitAt? closing rest).map Prod.fst

/-- The tags of a text that starts at `place`, the first `passed` characters of which belong to the tag
found last. -/
def tagsFrom (opening closing : List Char) (place passed : Nat) : List Char → List Tag
  | [] => []
  | c :: cs =>
    match passed with
    | passed + 1 => tagsFrom opening closing (place + 1) passed cs
    | 0 =>
      match innerAt? opening closing (c :: cs) with
      | some inner =>
        let size := opening.length + inner.length + closing.length
        (place, place + size, String.ofList inner) ::
          tagsFrom opening closing (place + 1) (size - 1) cs
      | none => tagsFrom opening closing (place + 1) 0 cs

/-- Between empty marks there is nothing, then one character, then nothing, and so on. -/
def tagsBetween (place : Nat) : List Char → List Tag
  | [] => [(place, place, "")]
  | c :: cs =>
    (place, place, "") :: (place, place + 1, String.singleton c) :: tagsBetween (place + 1) cs

/-- The tags of a template, from left to right. -/
def tags (marks : Marks) (template : String) : List Tag :=
  if marks.opening.isEmpty && marks.closing.isEmpty then tagsBetween 0 template.toList
  else tagsFrom marks.opening.toList marks.closing.toList 0 0 template.toList

/-! ## Looking up values -/

/-- The property number in a tag: decimal digits, blanks around them allowed, and not zero. -/
def propertyId? (inner : String) : Except Failure (Option Int) :=
  let code := Text.strip inner
  if Text.isDecimalText code.toList then
    match Number.readInt? code with
    | some n => .ok (if 0 < n then some n else none)
    | none => .error (.usage .tooManyDigits)
  else .ok none

/-- The text of a value. -/
def shown (v : Value) : Except Error (List Char) :=
  if v.isPrintable then .ok v.display.toList else .error (.failure (.usage .tooManyDigits))

/-- The text of a value inside rich text. -/
def bold (cs : List Char) : List Char :=
  let escaped := Text.escapeMarkup cs
  if escaped.isEmpty then [] else "<b>".toList ++ escaped ++ "</b>".toList

/-- What stands in place of a tag. -/
def fill (rich : Bool) (lookup : Int → Option Value) (template : String) (t : Tag) :
    Except Error (List Char) := do
  let unknown : Error := .script (.unknownTagProperty t.inner template)
  match propertyId? t.inner with
  | .error cause => .error (.failure cause)
  | .ok none => .error unknown
  | .ok (some id) =>
    match lookup id with
    | none => .error unknown
    | some v =>
      let text ← shown v
      return if rich then bold text else text

/-! ## Replacing tags -/

/-- A text with the part between two places replaced. -/
def splice (cs : List Char) (start stop : Nat) (value : List Char) : List Char :=
  cs.take start ++ value ++ cs.drop stop

/-- A text with tags replaced, from the last to the first. -/
def replaced (cs : List Char) (found : List (Tag × List Char)) : List Char :=
  found.foldr (fun e parsed => splice parsed e.1.start e.1.stop e.2) cs

/-- **Filling in.** The template with every tag replaced by the value of its property, or the error for
the leftmost tag that names no property. -/
def substitute (marks : Marks) (rich : Bool) (lookup : Int → Option Value) (template : String) :
    Except Error String := do
  let found := tags marks template
  let values ← found.mapM (fill rich lookup template)
  let parsed := replaced template.toList (found.zip values)
  return String.ofList (if rich then Text.breakLines parsed else parsed)

end Template
end Walkthrough
