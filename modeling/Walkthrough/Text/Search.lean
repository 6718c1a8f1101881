/-
# Searching texts

Finding, replacing and splitting on lists of characters. A position counts characters.
-/

namespace Walkthrough
namespace Text

/-- The rest of `cs` after `mark`, if `cs` starts with `mark`. -/
def afterMark? : List Char → List Char → Option (List Char)
  | [], cs => some cs
  | _ :: _, [] => none
  | m :: ms, c :: cs => if m = c then afterMark? ms cs else none

/-- The part of `cs` before the first occurrence of `mark` and the part after it. -/
def splitAt? (mark : List Char) : List Char → Option (List Char × List Char)
  | [] => if mark.isEmpty then some ([], []) else none
  | c :: cs =>
    match afterMark? mark (c :: cs) with
    | some rest => some ([], rest)
    | none => (splitAt? mark cs).map fun (before, after) => (c :: before, after)

/-- Whether `part` occurs in `cs`. -/
def occursIn (part cs : List Char) : Bool := (splitAt? part cs).isSome

/-- The parts of `cs` between the occurrences of a separating character. -/
def splitOnChar (sep : Char) : List Char → List (List Char)
  | [] => [[]]
  | c :: cs =>
    if c = sep then [] :: splitOnChar sep cs
    else match splitOnChar sep cs with
      | part :: parts => (c :: part) :: parts
      | [] => [[c]]

/-- The texts of a list with a separating text between neighbours. -/
def joined (sep : String) : List String → String
  | [] => ""
  | [s] => s
  | s :: rest => s ++ sep ++ joined sep rest

end Text
end Walkthrough
