/-
# Snapshots of engines

A snapshot keeps the values that are not blank. Restoring checks all of a snapshot against the script
before anything changes: the history must be a path of the script that ends at the current step, the
choices must exist, and the values must fit their properties; values of unknown properties are left
out. Only a value that cannot be logged breaks a restore off after that.
-/

import Walkthrough.Engine.Move
import Walkthrough.Saved.Text
import Walkthrough.Script.Graph

namespace Walkthrough
namespace Engine

/-- **The snapshot** of the current state. -/
def snapshot (e : Engine) : Snapshot where
  current := e.current
  values := ⟨e.store.values.entries.filter fun v => !v.2.isBlank, by
    have h := e.store.values.nodup
    rw [List.Nodup, List.pairwise_map] at h ⊢
    exact h.filter _⟩
  history := e.path
  choices := e.selected

/-- A snapshot that was checked: the path with its links, the choices and the values. -/
structure Restored where
  current : Option Int
  cameFrom : OrderedMap Int Int
  selected : OrderedMap Int Int
  values : OrderedMap Int Value

/-- A refusal because saved state does not fit the script. -/
def misfit {α : Type} (cause : MismatchFault) : Except Error α := .error (.raised (.mismatch cause))

/-- The history that a snapshot stands for: that of its current step alone if it has none. -/
def checkedHistory (script : Script) (s : Snapshot) : Except Error (List Int) :=
  if !decide s.history.Nodup then .error (.raised (.history (.repeated s.history)))
  else match s.current with
    | some current =>
      if !((script.step? current).map Step.isSay).getD false then misfit (.unknownStep current)
      else
        let history := if s.history.isEmpty then [current] else s.history
        if history.getLast? != some current then misfit (.wrongEnd current) else .ok history
    | none => if s.history.isEmpty then .ok [] else misfit .noCurrentStep

/-- The links of a history after the step `previous`, each of which must be a transition of the
script. -/
def checkedLinks (script : Script) (previous : Option Int) (links : OrderedMap Int Int) :
    List Int → Except Error (OrderedMap Int Int)
  | [] => .ok links
  | step :: rest =>
    if !script.hasStep step then misfit (.unknownStep step)
    else match previous with
      | none => checkedLinks script (some step) links rest
      | some previous =>
        if (script.nextSteps previous).contains step then
          checkedLinks script (some step) (links.insert step previous) rest
        else misfit (.noTransition previous step)

/-- The saved choices, each of which must exist. -/
def checkedChoices (script : Script) (selected : OrderedMap Int Int) :
    List (Int × Int) → Except Error (OrderedMap Int Int)
  | [] => .ok selected
  | (step, choice) :: rest =>
    match script.choice? step choice with
    | none => .error (.raised (.unknownChoice step choice))
    | some _ => checkedChoices script (selected.insert step choice) rest

/-- The saved values of known properties, each in the form of its property. -/
def checkedSaved (store : Store) (values : OrderedMap Int Value) :
    List (Int × Value) → Except Error (OrderedMap Int Value)
  | [] => .ok values
  | (id, v) :: rest =>
    if !store.contains id then
      -- That the property is unknown is logged.
      if Value.isShort id then checkedSaved store values rest else .error .tooManyDigits
    else match store.convert id v with
      | .ok w => checkedSaved store (values.insert id w) rest
      | .error (.script (.value (.invalid type v))) =>
        .error (.raised (.value (.invalidSaved id type v)))
      | .error e => .error e

/-- **Checking** a snapshot against the script of an engine. -/
def check (e : Engine) (s : Snapshot) : Except Error Restored := do
  let history ← checkedHistory e.script s
  let cameFrom ← checkedLinks e.script none .empty history
  let selected ← checkedChoices e.script .empty s.choices.entries
  let values ← checkedSaved e.store .empty s.values.entries
  return ⟨s.current, cameFrom, selected, values⟩

/-- Tells listeners of choices, one after the other. -/
def emitChoices : List (Int × Int) → Act Unit
  | [] => return ()
  | (step, choice) :: rest => do
    emit (.choiceActivated step choice)
    emitChoices rest

/-- Puts a checked snapshot in place of the state. -/
def adopt (r : Restored) : Act Unit := do
  modify fun e => { e with script := e.script.freeze, store := e.store.reset }
  writeAll r.values.entries
  let e ← get
  let previous := e.current
  set { e with cameFrom := r.cameFrom, selected := r.selected, current := r.current }
  emitChoices r.selected.entries
  match r.current with
  | none => return ()
  | some target =>
    if previous == some target then return ()
    match previous with
    | some left => emit (.stepLeft left)
    | none => emit .started
    emit (.stepEntered previous target)

/-- **Restoring.** Replaces values and position by those of a snapshot. -/
def restore (s : Snapshot) : Act Unit := do
  let e ← get
  let r ← lift (e.check s)
  adopt r

/-! ## Saved text -/

/-- The current state as text, with the tags of the engine. -/
def toText (e : Engine) : Except Error String :=
  Saved.write e.stepTags e.propertyTags e.snapshot

/-- Restores the state that a text was saved from. -/
def restoreText (text : String) : Act Unit := do
  let e ← get
  let s ← lift ((Saved.read e.stepTags e.propertyTags text).mapError .raised)
  restore s

end Engine
end Walkthrough
