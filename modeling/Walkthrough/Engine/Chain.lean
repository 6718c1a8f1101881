/-
# Chains of call steps

Between two say steps a chain of call steps may be run. Each writes its default values, needs its
required properties, calls its function, writes the result, and goes on by the first rule that holds. A
step is run once only: coming back to it is an error.

What the chain has written so far lies in an overlay, which wins over the store; only when the chain is
run for good (`write`) does the store change as well. Then every write is logged, and one that cannot be
logged breaks the chain off after it.
-/

import Walkthrough.Engine.Basic

namespace Walkthrough

/-- The state of a chain: the store, what the chain has written, the registry with its calls, and the
steps that were walked, oldest first. -/
structure Chain where
  store : Store
  overlay : OrderedMap Int Value
  registry : Registry
  walked : List Int

/-- Why a chain ended before a say step. -/
inductive Halt where
  | finished (step : Int)
  | looped (walked : List Int)
  | failed (error : Error)

namespace Chain

/-- The value of a property in a chain. -/
def value (c : Chain) (id : Int) : Except Error Value :=
  match c.overlay.get? id with
  | some v => .ok v
  | none => c.store.get id

/-- The values of the names of a condition. -/
def namedValues (c : Chain) : List (String × Int) → Except Error (List (String × Value))
  | [] => .ok []
  | (name, id) :: rest => do
    let v ← c.value id
    let rest ← c.namedValues rest
    return (name, v) :: rest

/-- The value of a name among values. -/
def valueOf (values : List (String × Value)) (name : String) : Value :=
  ((values.find? fun e => e.1 == name).map Prod.snd).getD .unset

/-- The target of the first rule that holds. A condition that breaks off does not hold if one of its
values is blank. -/
def firstTarget (c : Chain) : List Rule → Except Error (Option Int)
  | [] => .ok none
  | rule :: rest =>
    match rule.predicate with
    | none => .ok (some rule.target)
    | some p => do
      let values ← c.namedValues p.parameters.entries
      match p.evaluate (valueOf values) with
      | .ok true => return some rule.target
      | .ok false => c.firstTarget rest
      | .error e =>
        if values.any fun v => v.2.isBlank then c.firstTarget rest else .error (.script e)

/-- Which required properties of a step and a choice are blank in the store. -/
def missing (store : Store) (step : Step) (choice : Option Choice) : List Int :=
  (Engine.requiredIds step choice).filter fun id => (store.value id).isBlank

/-- Which properties of the conditions of rules are blank in the store and were not written by the
chain, in order and each once. -/
def blankInputs (c : Chain) (rules : List Rule) : List Int :=
  let ids := rules.flatMap fun r => (r.predicate.map Predicate.propertyIds).getD []
  (ids.filter fun id => !c.overlay.contains id && (c.store.value id).isBlank).eraseDups

/-- The complaint about properties that are not filled in, with their names. -/
def requiredError (store : Store) (ids : List Int) : Error :=
  .script (.required ids (ids.filterMap fun id => (store.schema.get? id).map Property.name))

/-- The complaint when no rule of a step holds: about what is missing, or else about the inputs of its
conditions. -/
def noTarget (c : Chain) (step : Step) (choice : Option Choice) : Error :=
  let ids := missing c.store step choice
  requiredError c.store (if ids.isEmpty then c.blankInputs step.rules else ids)

/-- Writes a value that was converted before. -/
def put (write : Bool) (c : Chain) (id : Int) (v : Value) : Chain :=
  { c with
    overlay := c.overlay.insert id v
    store := if write then c.store.write id v else c.store }

/-- Logs a write to the store. -/
def logged (write : Bool) (id : Int) (v : Value) : Except Error Unit :=
  if write then Store.log id v else .ok ()

/-- Writes the default values of a step, up to the first that does not fit or cannot be logged. -/
def putDefaults (write : Bool) : List (Int × Value) → Chain → Except Error Unit × Chain
  | [], c => (.ok (), c)
  | (id, v) :: rest, c =>
    match c.store.convert id v with
    | .error e => (.error e, c)
    | .ok w =>
      match logged write id w with
      | .ok () => putDefaults write rest (put write c id w)
      | .error e => (.error e, put write c id w)

/-- The arguments of a call: its own values, and over them the values of properties. -/
def arguments (c : Chain) (f : FunctionCall) : Except Error Arguments := do
  let values ← c.namedValues f.properties.entries
  return f.values.insertAll values

/-- Calls the function of a step and writes the result. -/
def callFunction (write : Bool) (f : FunctionCall) (c : Chain) : Except Error Unit × Chain :=
  match c.arguments f with
  | .error e => (.error e, c)
  | .ok arguments =>
    let (result, registry) := c.registry.call f.name arguments
    let c := { c with registry }
    match result with
    | .error e => (.error e, c)
    | .ok v =>
      match c.store.convert f.result v with
      | .error e => (.error e, c)
      | .ok w => (logged write f.result w, put write c f.result w)

/-- The step that a rule leads to. -/
def target (script : Script) (id : Int) : Except Error Step :=
  match script.step? id with
  | some t => .ok t
  | none => .error (.raised (.definition (.unknownStep (.int id))))

/-- Runs one call step: its defaults, its required properties, its function; then finds the step after
it. -/
def runStep (write : Bool) (script : Script) (step : Step) (f : FunctionCall) (c : Chain) :
    Except Halt Step × Chain :=
  match putDefaults write step.defaults.entries c with
  | (.error e, c) => (.error (.failed e), c)
  | (.ok (), c) =>
    let missing := (missing c.store step none).filter fun id =>
      ((c.overlay.get? id).getD .unset).isBlank
    if !missing.isEmpty then (.error (.failed (requiredError c.store missing)), c)
    else match callFunction write f c with
      | (.error e, c) => (.error (.failed e), c)
      | (.ok (), c) =>
        if step.isFinal then (.error (.finished step.id), c)
        else match c.firstTarget step.rules with
          | .error e => (.error (.failed e), c)
          | .ok none => (.error (.failed (c.noTarget step none)), c)
          | .ok (some id) =>
            match target script id with
            | .ok next => (.ok next, c)
            | .error e => (.error (.failed e), c)

/-- **Running a chain** from a step to the first say step, in at most `fuel` steps. `run` are the call
steps that were run. -/
def run (write : Bool) (script : Script) : Nat → List Int → Step → Chain → Except Halt Step × Chain
  | fuel, done, step, c =>
    match step.body with
    | .say _ _ => (.ok step, c)
    | .call f =>
      let c := { c with walked := c.walked ++ [step.id] }
      if done.contains step.id then (.error (.looped c.walked), c)
      else match fuel with
        | 0 => (.error (.looped c.walked), c)
        | fuel + 1 =>
          match runStep write script step f c with
          | (.ok next, c) => run write script fuel (step.id :: done) next c
          | (.error halt, c) => (.error halt, c)

/-- How many call steps a chain can run at most. -/
def fuel (script : Script) : Nat := script.steps.size

end Chain
end Walkthrough
