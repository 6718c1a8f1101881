/-
# Snapshots and their histories

What is kept of a run: where it stands, the values that are filled in, the say steps on the way from the
first step to the current one, and the choice that was selected at each step.

A saved history is a list of links in any order: each step with the step before it. It is a path if its
links can be put in a row, from the only step without a known step before it to the last one.
-/

import Walkthrough.Error.Basic

namespace Walkthrough

/-- The state of a run that can be saved. -/
structure Snapshot where
  current : Option Int := none
  values : OrderedMap Int Value := .empty
  history : List Int := []
  choices : OrderedMap Int Int := .empty
deriving Inhabited

namespace Saved

/-- Links from steps to the steps before them. -/
abbrev Links := OrderedMap Int (Option Int)

/-- Whether a link starts a history: nothing stands before it, or a step without a link. -/
def isRoot (links : Links) (link : Int × Option Int) : Bool :=
  match link.2 with
  | none => true
  | some previous => !links.contains previous

/-- The steps after steps, from all links but that of the root; no two steps may follow one step. -/
def followers (root : Int) (following : OrderedMap Int Int) :
    List (Int × Option Int) → Except ScriptError (OrderedMap Int Int)
  | [] => .ok following
  | (step, previous) :: rest =>
    match previous with
    | none => followers root following rest
    | some previous =>
      if step = root then followers root following rest
      else if following.contains previous then .error (.saved (.branch previous))
      else followers root (following.insert previous step) rest

/-- The steps from a step on, at most `fuel` more. -/
def chase (following : OrderedMap Int Int) : Nat → Int → List Int
  | 0, step => [step]
  | fuel + 1, step =>
    match following.get? step with
    | some next => step :: chase following fuel next
    | none => [step]

/-- **The history** that links stand for. -/
def orderedHistory (links : Links) : Except ScriptError (List Int) :=
  if links.isEmpty then .ok []
  else match (links.entries.filter (isRoot links)).map Prod.fst with
    | [root] => do
      let following ← followers root .empty links.entries
      let ordered := chase following links.size root
      if ordered.length = links.size then .ok ordered else .error (.history .cycle)
    | roots => .error (.history (.roots roots.length))

end Saved
end Walkthrough
