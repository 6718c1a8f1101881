/-
# Moving through a script

| operation | the path afterwards |
| --- | --- |
| `start` | the first say step |
| `advance` | one step longer, or cut after the step it came back to |
| `back` | one step shorter |

An operation that fails leaves the path as it was; what call steps wrote before stays written. The one
exception is a step with a default value that cannot be logged: `advance` has moved there when it fails.
-/

import Walkthrough.Engine.Chain

namespace Walkthrough
namespace Engine

/-- The chain that has not walked anything yet. -/
def newChain (e : Engine) (walked : List Int) : Chain := ⟨e.store, .empty, e.registry, walked⟩

/-- The engine after a chain: what was called, and what was written if it was written for good. -/
def afterChain (e : Engine) (c : Chain) : Engine := { e with store := c.store, registry := c.registry }

/-- Where a run of the first step leads. -/
def resolveStart (e : Engine) (write : Bool) (first : Int) : Except Halt Step × Chain :=
  let c := e.newChain []
  match Chain.target e.script first with
  | .error error => (.error (.failed error), c)
  | .ok step => Chain.run write e.script (Chain.fuel e.script) [] step c

/-- **Where the current step leads**: to the say step behind the first rule that holds, once all that
is required is filled in. -/
def resolve (e : Engine) (write : Bool) (current : Int) : Except Halt Step × Chain :=
  let c := e.newChain [current]
  match Chain.target e.script current with
  | .error error => (.error (.failed error), c)
  | .ok step =>
    let choice := e.selectedChoice current
    let missing := Chain.missing e.store step choice
    if !missing.isEmpty then (.error (.failed (Chain.requiredError e.store missing)), c)
    else if step.isFinal then (.error (.finished step.id), c)
    else match c.firstTarget step.rules with
      | .error error => (.error (.failed error), c)
      | .ok none => (.error (.failed (c.noTarget step choice)), c)
      | .ok (some id) =>
        match Chain.target e.script id with
        | .error error => (.error (.failed error), c)
        | .ok next => Chain.run write e.script (Chain.fuel e.script) [] next c

/-- Where the engine would go now, without writing anything. -/
def lookAhead (e : Engine) : Except Halt Step × Chain :=
  match e.current with
  | some current => e.resolve false current
  | none =>
    match e.script.first with
    | some first => e.resolveStart false first
    | none => (.error (.failed (.script .noFirstStep)), e.newChain [])

/-- **Looking ahead.** The step that `advance` would reach now, if any; only the calls made on the way
are noted. Whatever breaks the chain off is logged and forgotten; a failure of the host has a text that
can be logged. -/
def peek : Act (Option Int) := do
  let e ← get
  let (result, c) := e.lookAhead
  set { e with registry := c.registry }
  match result with
  | .ok step => return some step.id
  | .error _ => return none

/-- The end of a chain as the end of an operation; that a script is finished is told to listeners. The
steps that are named here were added to the script, so that their numbers can be written. -/
def conclude {α : Type} : Except Halt α → Act α
  | .ok a => return a
  | .error (.finished step) => do
    emit (.finished step)
    throw (.script (.finished step))
  | .error (.looped walked) => throw (.script (.looped walked))
  | .error (.failed error) => throw error

/-- Writes a value to the store. -/
def write (id : Int) (v : Value) : Act Unit := do
  let e ← get
  let (result, store) := e.store.set id v
  set { e with store }
  lift result

/-- Writes values to the store, one after the other. -/
def writeAll : List (Int × Value) → Act Unit
  | [] => return ()
  | (id, v) :: rest => do
    write id v
    writeAll rest

/-- **Entering** the first step. -/
def start : Act Unit := do
  let e ← get
  if e.isStarted then refuse (.state .alreadyStarted)
  match e.script.first with
  | none => refuse .noFirstStep
  | some first =>
    let e := { e with script := e.script.freeze }
    let (result, c) := e.resolveStart true first
    set (e.afterChain c)
    let step ← conclude result
    writeAll step.defaults.entries
    modify fun e => { e with current := some step.id }
    emit .started
    emit (.stepEntered none step.id)

/-- The links after a move to a step: those behind it are dropped if it lies on the path. -/
def linksAfter (e : Engine) (left target : Int) : OrderedMap Int Int :=
  let path := e.path
  if path.contains target then
    ((path.dropWhile (· != target)).drop 1).foldl (fun links id => links.erase id) e.cameFrom
  else e.cameFrom.insert target left

/-- Moves to a step that was found before. -/
def commit (left : Int) (target : Step) : Act Unit := do
  modify fun e => { e with cameFrom := e.linksAfter left target.id, current := some target.id }
  writeAll target.defaults.entries
  emit (.stepLeft left)
  emit (.stepEntered (some left) target.id)

/-- **Going on** to the next say step, or to the first one. The result is the step that was reached. -/
def advance : Act Int := do
  let e ← get
  match e.current with
  | none =>
    start
    let e ← get
    return e.current.getD 0
  | some current =>
    let (result, c) := e.resolve true current
    set (e.afterChain c)
    let target ← conclude result
    commit current target
    return target.id

/-- **Going back** to the step from which the current one was entered. -/
def back : Act Int := do
  let e ← get
  match e.current with
  | none => refuse (.state .notStarted)
  | some left =>
    match e.cameFrom.get? left with
    | none => refuse .noPreviousStep
    | some previous =>
      set { e with cameFrom := e.cameFrom.erase left, current := some previous }
      emit (.stepLeft left)
      emit (.stepEntered (some left) previous)
      return previous

/-! ## Writing values -/

/-- **Writing a value.** Tells listeners if another step can be reached because of it. -/
def setValue (id : Int) (v : Value) : Act Unit := do
  let e ← get
  if !e.store.contains id then refuse (.propertyNotFound (.id id))
  let before ← peek
  write id v
  let after ← peek
  match after with
  | some step => if before != some step then emit (.nextStepReady step) else return ()
  | none => return ()

/-- Writes values, one after the other. -/
def setValues : List (Int × Value) → Act Unit
  | [] => return ()
  | (id, v) :: rest => do
    setValue id v
    setValues rest

/-- Writes the value of the property with a tag. -/
def setValueByTag (tag : String) (v : Value) : Act Unit := do
  let e ← get
  let id ← lift (e.propertyOfTag tag)
  setValue id v

/-- **Selecting a choice** of the current step: its values are written, unless it is selected
already. -/
def selectChoice (step choice : Int) : Act Unit := do
  let e ← get
  match e.current with
  | none => refuse (.state .notStarted)
  | some current =>
    if step != current then refuse (.state (.notCurrent current step))
    match e.script.choice? step choice with
    | none => refuse (.unknownChoice step choice)
    | some c =>
      if e.selected.get? step == some choice then return ()
      setValues c.values.entries
      modify fun e => { e with selected := e.selected.insert step choice }
      emit (.choiceActivated step choice)

/-- The required properties of the current step and choice that are not filled in. -/
def missingRequired (e : Engine) : List Int :=
  match e.currentStep with
  | some step => Chain.missing e.store step e.currentChoice
  | none => []

end Engine
end Walkthrough
