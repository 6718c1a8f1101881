/-
# The nodes of a YAML document

Tokens become a tree of scalars, lists and dictionaries. A name in front of a node lets the same node
stand at other places by that name; a node that contains itself is cut off where it repeats.
-/

import Walkthrough.Error.Basic
import Walkthrough.Yaml.Kind
import Walkthrough.Yaml.Token

namespace Walkthrough
namespace Yaml

/-- A node of a document. -/
inductive Node where
  | scalar (kind : Kind) (text : String)
  | list (kind : Kind) (items : List Node)
  | dict (kind : Kind) (entries : List (Node × Node))
deriving Inhabited

namespace Node

/-- The node that stands for nothing. -/
def empty : Node := .scalar .unset ""

/-- What stands for a node inside of itself. -/
def cut : Node := .list .list [empty]

end Node

/-- The tokens that are left and why there are no more, the named nodes, of which some are not complete
yet, and what the handles of tags stand for. -/
structure Builder where
  tokens : List Token
  stop : Option Failure
  anchors : List (String × Option Node) := []
  handles : List (String × String) := []

/-- A reader of a node. -/
abbrev Build := StateT Builder (Except Failure)

namespace Build

/-- Refuses the structure of the text. -/
def refuse {α : Type} : Build α := throw (.markup .nesting)

/-- The next token. -/
def peek : Build Token := do
  let b ← get
  match b.tokens with
  | t :: _ => return t
  | [] => throw (b.stop.getD (.markup .token))

/-- Moves over the next token. -/
def drop : Build Unit := modify fun b => { b with tokens := b.tokens.tail }

/-- Whether the next token is one of a list. -/
def at? (ts : List Token) : Build Bool := return ts.contains (← peek)

/-- Moves over the next token if it is this one. -/
def accept (t : Token) : Build Bool := do
  if (← peek) == t then do
    drop
    return true
  else return false

/-! ## Properties of nodes -/

/-- The name in front of a node. -/
def anchor? : Build (Option String) := do
  match ← peek with
  | .anchor name => do
    drop
    return some name
  | _ => return none

/-- The tag in front of a node, not yet expanded. -/
def tag? : Build (Option (Option String × String)) := do
  match ← peek with
  | .tag handle suffix => do
    drop
    return some (handle, suffix)
  | _ => return none

/-- The full form of a tag. -/
def expanded : Option String × String → Build String
  | (none, suffix) => return suffix
  | (some handle, suffix) => do
    match (← get).handles.lookup handle with
    | some replacement => return replacement ++ suffix
    | none => refuse

/-- The name and the tag in front of a node, in either order. -/
def properties : Build (Option String × Option String) := do
  match ← anchor? with
  | some name => do
    match ← tag? with
    | some tag => return (some name, some (← expanded tag))
    | none => return (some name, none)
  | none => do
    match ← tag? with
    | some tag => do
      let name ← anchor?
      return (name, some (← expanded tag))
    | none => return (none, none)

/-- The kind of a node with a tag; without a tag, or with one that says nothing, it is `other`. -/
def kindOr (tag : Option String) (other : Kind) : Kind :=
  match tag with
  | none => other
  | some "!" => other
  | some tag => .ofTag tag

/-- The kind of a scalar. -/
def scalarKind (tag : Option String) (text : String) (plain : Bool) : Kind :=
  kindOr tag (if plain || tag == some "!" then .ofPlain text else .text)

/-- Takes a name for a node that is not complete yet; no name may be taken twice. -/
def declare (name : Option String) : Build Unit := do
  match name with
  | none => return ()
  | some name => do
    let b ← get
    if (b.anchors.lookup name).isSome then throw (.markup .composition)
    set { b with anchors := (name, none) :: b.anchors }

/-- The node of a name is complete. -/
def define (name : Option String) (n : Node) : Build Node := do
  match name with
  | none => return n
  | some name => do
    modify fun b => { b with anchors := (name, some n) :: b.anchors }
    return n

/-- The node of a name. -/
def named (name : String) : Build Node := do
  match (← get).anchors.lookup name with
  | some n => return n.getD .cut
  | none => throw (.markup .composition)

/-! ## Nodes -/

mutual

/-- A node, in at most `fuel` steps: inside or outside of brackets, and where a list may stand at the
column of the key before it. -/
def node (block sameColumn : Bool) : Nat → Build Node
  | 0 => refuse
  | fuel + 1 => do
    match ← peek with
    | .alias name => do
      drop
      named name
    | _ => do
      let (name, tag) ← properties
      match ← peek with
      | .scalar text plain => do
        drop
        declare name
        define name (.scalar (scalarKind tag text plain) text)
      | .openSquare => do
        declare name
        drop
        define name (.list (kindOr tag .list) (← flowItems true fuel))
      | .openCurly => do
        declare name
        drop
        define name (.dict (kindOr tag .dict) (← flowEntries true fuel))
      | next =>
        if sameColumn && next == .item then do
          declare name
          define name (.list (kindOr tag .list) (← columnItems fuel))
        else if block && next == .listStart then do
          declare name
          drop
          define name (.list (kindOr tag .list) (← blockItems fuel))
        else if block && next == .dictStart then do
          declare name
          drop
          define name (.dict (kindOr tag .dict) (← blockEntries fuel))
        else if name.isSome || tag.isSome then do
          declare name
          define name (.scalar (kindOr tag .unset) "")
        else refuse

/-- A node, or the empty one before certain tokens. -/
def nodeUnless (block sameColumn : Bool) (ends : List Token) : Nat → Build Node
  | 0 => refuse
  | fuel + 1 => do
    if ← at? ends then return .empty else node block sameColumn fuel

/-- The items of a block list. -/
def blockItems : Nat → Build (List Node)
  | 0 => refuse
  | fuel + 1 => do
    if ← accept .item then
      let n ← nodeUnless true false [.item, .blockEnd] fuel
      return n :: (← blockItems fuel)
    else if ← accept .blockEnd then return []
    else refuse

/-- The items of a block list at the column of its key. -/
def columnItems : Nat → Build (List Node)
  | 0 => refuse
  | fuel + 1 => do
    if ← accept .item then
      let n ← nodeUnless true false [.item, .key, .value, .blockEnd] fuel
      return n :: (← columnItems fuel)
    else return []

/-- The entries of a block dictionary. -/
def blockEntries : Nat → Build (List (Node × Node))
  | 0 => refuse
  | fuel + 1 => do
    if ← accept .key then
      let k ← nodeUnless true true [.key, .value, .blockEnd] fuel
      let v ← if ← accept .value then nodeUnless true true [.key, .value, .blockEnd] fuel
        else pure .empty
      return (k, v) :: (← blockEntries fuel)
    else if ← accept .blockEnd then return []
    else refuse

/-- The items of a list in brackets. -/
def flowItems (first : Bool) : Nat → Build (List Node)
  | 0 => refuse
  | fuel + 1 => do
    if ← accept .closeSquare then return []
    if !first then
      if !(← accept .comma) then refuse
    if ← accept .key then
      let k ← nodeUnless false false [.value, .comma, .closeSquare] fuel
      let v ← if ← accept .value then nodeUnless false false [.comma, .closeSquare] fuel
        else pure .empty
      return .dict .dict [(k, v)] :: (← flowItems false fuel)
    else if ← accept .closeSquare then return []
    else
      let n ← node false false fuel
      return n :: (← flowItems false fuel)

/-- The entries of a dictionary in brackets. -/
def flowEntries (first : Bool) : Nat → Build (List (Node × Node))
  | 0 => refuse
  | fuel + 1 => do
    if ← accept .closeCurly then return []
    if !first then
      if !(← accept .comma) then refuse
    if ← accept .key then
      let k ← nodeUnless false false [.value, .comma, .closeCurly] fuel
      let v ← if ← accept .value then nodeUnless false false [.comma, .closeCurly] fuel
        else pure .empty
      return (k, v) :: (← flowEntries false fuel)
    else if ← accept .closeCurly then return []
    else
      let k ← node false false fuel
      return (k, .empty) :: (← flowEntries false fuel)

end

/-! ## Documents -/

/-- What the handles of tags stand for when nothing is said about them. -/
def defaultHandles : List (String × String) := [("!", "!"), ("!!", Kind.standard)]

/-- Moves over directives, in at most `fuel` steps; a version and a handle can be declared once. -/
def directives (version : Bool) (handles : List (String × String)) :
    Nat → Build (List (String × String))
  | 0 => refuse
  | fuel + 1 => do
    match ← peek with
    | .version major => do
      drop
      if version || major != 1 then refuse else directives true handles fuel
    | .handle name replacement => do
      drop
      if (handles.lookup name).isSome then refuse
      else directives version ((name, replacement) :: handles) fuel
    | .otherDirective => do
      drop
      directives version handles fuel
    | _ => return handles

/-- The start of a document that is marked as such. -/
def documentStart (fuel : Nat) : Build Unit := do
  let handles ← directives false [] fuel
  if ← accept .documentStart then
    modify fun b => { b with handles := handles ++ defaultHandles }
  else refuse

/-- Moves over the ends of documents, in at most `fuel` steps. -/
def documentEnds : Nat → Build Unit
  | 0 => refuse
  | fuel + 1 => do
    if ← accept .documentEnd then documentEnds fuel

/-- Whether a token stands between documents. -/
def isBoundary (t : Token) : Bool :=
  t.isDirective || t == .documentStart || t == .documentEnd || t == .textEnd

/-- The only document of a text, if there is one. -/
def document (fuel : Nat) : Build (Option Node) := do
  let first ← peek
  if first == .textEnd then return none
  let root ←
    if first.isDirective || first == .documentStart then do
      documentStart fuel
      if isBoundary (← peek) then pure Node.empty else node true false fuel
    else do
      modify fun b => { b with handles := defaultHandles }
      node true false fuel
  documentEnds fuel
  if (← peek) == .textEnd then return some root
  documentStart fuel
  throw (.markup .composition)

end Build

/-- **The node** of a sequence of tokens that may end in a refusal; none if there is no document. -/
def Node.ofTokens? (tokens : List Token) (stop : Option Failure) : Except Failure (Option Node) := do
  let (n, _) ← (Build.document (3 * tokens.length + 8)).run { tokens, stop }
  return n

end Yaml
end Walkthrough
