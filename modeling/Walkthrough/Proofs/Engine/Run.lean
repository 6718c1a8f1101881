/-
# Runs of an engine

What a caller can ask of an engine (`Operation`), and runs of such operations from a new engine
(`Fresh`), in any order, each with any outcome. Whatever the listeners do, the script, the listeners, the
functions, the tags and the form of the values stay (`run_keeps`), so every engine that is reached is
`Ready` for the next operation.
-/

import Walkthrough.Proofs.Engine.Restoring
import Walkthrough.Proofs.Engine.Writing
import Walkthrough.Proofs.Number.Decimal

namespace Walkthrough

/-- What a caller can ask of an engine. -/
inductive Operation where
  | start
  | advance
  | back
  | selectChoice (step choice : Int)
  | setValue (id : Int) (v : Value)
  | restore (s : Snapshot)

namespace Operation

/-- Does what is asked. `advance` and `back` answer with the step that was reached. -/
def act : Operation → Act (Option Int)
  | start => (fun _ => none) <$> Engine.start
  | advance => some <$> Engine.advance
  | back => some <$> Engine.back
  | selectChoice step choice => (fun _ => none) <$> Engine.selectChoice step choice
  | setValue id v => (fun _ => none) <$> Engine.setValue id v
  | restore s => (fun _ => none) <$> Engine.restore s

/-- Whether an operation puts saved state in place of the state. -/
def isRestore : Operation → Bool
  | restore _ => true
  | _ => false

end Operation

namespace Engine

variable {e e' : Engine}

/-- **A run**: operations one after the other, each from where the one before left the engine, whatever
came of it. -/
def run (e : Engine) (ops : List Operation) : Engine := ops.foldl (fun e op => op.act.after e) e

/-- A new engine for a script that was built: nothing was written, entered or selected yet. -/
structure Fresh (e : Engine) : Prop where
  built : e.script.Built
  store : e.store = .empty e.script.schema
  current : e.current = none
  cameFrom : e.cameFrom = .empty
  selected : e.selected = .empty

theorem fresh_of_create {script : Script} {registry : Registry} {marks : Marks} (b : script.Built)
    (h : create script registry marks = .ok e) : e.Fresh := by
  unfold create at h
  split at h
  · cases h
  · cases h
    exact ⟨b, rfl, rfl, rfl, rfl⟩

/-- A new engine with the usual marks. -/
def ofScript (script : Script) (registry : Registry) : Engine where
  script := script
  registry := registry
  marks := {}
  store := .empty script.schema
  bus := .empty
  emitted := []
  stepTags := .empty
  propertyTags := .empty
  current := none
  cameFrom := .empty
  selected := .empty

theorem script_ofScript (script : Script) (registry : Registry) : (ofScript script registry).script = script := rfl

theorem create_eq (script : Script) (registry : Registry) :
    create script registry {} = .ok (ofScript script registry) := rfl

theorem ofScript_quiet (script : Script) (registry : Registry) : (ofScript script registry).Quiet :=
  fun _ h => absurd h List.not_mem_nil

theorem Fresh.ready (f : e.Fresh) : e.Ready := by
  refine ⟨f.built.wellFormed, ?_, ?_⟩
  · rw [f.store]
    rfl
  · rw [f.store]
    exact Store.typed_empty _

/-! ## What an operation does -/

/-- **What an operation does**, apart from what it tells: its outcome, if no listener objects, and the
engine that it leaves. -/
inductive Effect (e : Engine) : Operation → Except Error (Option Int) → Engine → Prop where
  /-- Nothing was done. -/
  | refused {op : Operation} {err : Error} : Effect e op (.error err) e
  /-- A move ended before a say step; what its call steps wrote stays. -/
  | halted {op : Operation} {err : Error} {halt : Halt} {c : Chain} (move : op = .start ∨ op = .advance)
      (way : e.travel true = (.error halt, c)) : Effect e op (.error err) (e.moved (.error halt, c))
  | started {step : Step} {c : Chain} (first : e.current = none)
      (way : e.travel true = (.ok step, c)) (logged : step.isLoggable = true) :
      Effect e .start (.ok none) (e.moved (.ok step, c))
  | advanced {step : Step} {c : Chain} (way : e.travel true = (.ok step, c))
      (logged : step.isLoggable = true) : Effect e .advance (.ok (some step.id)) (e.moved (.ok step, c))
  /-- The engine did not come to stand on its first say step, a default value of which cannot be logged. -/
  | fell {op : Operation} {step : Step} {c : Chain} (move : op = .start ∨ op = .advance)
      (first : e.current = none) (way : e.travel true = (.ok step, c)) (long : step.isLoggable = false) :
      Effect e op (.error .tooManyDigits) (e.moved (.ok step, c))
  /-- The engine has moved to a say step, a default value of which cannot be logged. -/
  | stumbled {step : Step} {c : Chain} {left : Int} (current : e.current = some left)
      (way : e.travel true = (.ok step, c)) (long : step.isLoggable = false) :
      Effect e .advance (.error .tooManyDigits) (e.moved (.ok step, c))
  | wentBack {left previous : Int} (current : e.current = some left)
      (link : e.cameFrom.get? left = some previous) :
      Effect e .back (.ok (some previous))
        { e with cameFrom := e.cameFrom.erase left, current := some previous }
  | wrote {id : Int} {v : Value} {x : Except Error Unit} {e' : Engine} (h : e.Stays e') :
      Effect e (.setValue id v) (x.map fun _ => none) e'
  /-- The values of a choice were written, some of them or all. -/
  | wroteChoice {step choice : Int} {x : Except Error Unit} {e' : Engine} (h : e.Stays e') :
      Effect e (.selectChoice step choice) (x.map fun _ => none) e'
  | chose {step choice : Int} {e' : Engine} (h : e.Stays e')
      (known : (e.script.choice? step choice).isSome = true) :
      Effect e (.selectChoice step choice) (.ok none)
        { e' with selected := e.selected.insert step choice }
  | restored {s : Snapshot} {r : Restored} (checked : e.check s = .ok r)
      (logged : Store.logAll r.values.entries = .ok ()) : Effect e (.restore s) (.ok none) (e.adopted r)
  /-- A value of the snapshot cannot be logged. -/
  | interrupted {s : Snapshot} {r : Restored} {err : Error} (checked : e.check s = .ok r)
      (long : Store.logAll r.values.entries = .error err) :
      Effect e (.restore s) (.error err) (e.interrupted r)

/-- An operation has an effect and tells some events at its end. -/
def Does (op : Operation) (e : Engine) : Prop :=
  ∃ x events e' told, Effect e op x e' ∧
    op.act.after e = { e' with emitted := e'.emitted ++ told } ∧
      op.act.outcome e = match e'.firstObjection events with
        | some err => .error err
        | none => x

section Does

variable {α : Type} {m : Act α} {f : α → Option Int} {op : Operation}

theorem does_of_report {x : Except Error α} {events : List Event} (hact : op.act = f <$> m)
    (heq : m e = report x events e') (h : Effect e op (x.map f) e') : Does op e := by
  obtain ⟨told, ht⟩ := after_report x events e'
  refine ⟨x.map f, events, e', told, h, ?_, ?_⟩
  · rw [hact, Act.after_map, Act.after_congr heq, ht]
  · rw [hact, Act.outcome_map, Act.outcome_congr heq, outcome_report]
    cases e'.firstObjection events <;> rfl

/-- An operation whose end is not looked at more closely. -/
theorem does_of_outcome (hact : op.act = f <$> m)
    (h : Effect e op ((m.outcome e).map f) (m.after e)) : Does op e := by
  refine ⟨_, [], m.after e, [], h, ?_, ?_⟩
  · rw [hact, Act.after_map, List.append_nil]
  · rw [hact, Act.outcome_map]
    rfl

theorem does_of_refused {err : Error} (hact : op.act = f <$> m) (heq : m e = .error err e) :
    Does op e := by
  refine does_of_outcome hact ?_
  rw [Act.outcome, Act.after, heq]
  exact .refused

end Does

/-- **Every operation has one of the effects.** -/
theorem does (r : e.Ready) (op : Operation) : Does op e := by
  cases op with
  | start =>
    cases hc : e.current with
    | some current => exact does_of_refused rfl (start_eq_of_started hc)
    | none =>
      have heq := start_eq r hc
      rcases hway : e.travel true with ⟨halt | step, c⟩
      · rw [hway] at heq
        refine does_of_report rfl heq ?_
        cases halt <;> exact .halted (.inl rfl) hway
      · rw [hway] at heq
        refine does_of_report rfl heq ?_
        cases hstep : step.isLoggable with
        | true =>
          rw [landing_of_isLoggable hstep]
          exact .started hc hway hstep
        | false =>
          rw [landing_of_not_isLoggable hstep]
          exact .fell (.inl rfl) hc hway hstep
  | advance =>
    have heq := advance_eq r
    rcases hway : e.travel true with ⟨halt | step, c⟩
    · rw [hway] at heq
      refine does_of_report rfl heq ?_
      cases halt <;> exact .halted (.inr rfl) hway
    · rw [hway] at heq
      refine does_of_report rfl heq ?_
      cases hstep : step.isLoggable with
      | true =>
        rw [landing_of_isLoggable hstep]
        exact .advanced hway hstep
      | false =>
        rw [landing_of_not_isLoggable hstep]
        cases hc : e.current with
        | none => exact .fell (.inr rfl) hc hway hstep
        | some left => exact .stumbled hc hway hstep
  | back =>
    have heq := back_eq (e := e)
    split at heq
    · exact does_of_refused rfl heq
    · next hc =>
      split at heq
      · exact does_of_refused rfl heq
      · next hl => exact does_of_report rfl heq (.wentBack hc hl)
  | selectChoice step choice =>
    rcases selectChoice_cases step choice e with h | ⟨known, e', h, heq⟩
    · exact does_of_outcome rfl (.wroteChoice h)
    · exact does_of_report rfl heq (.chose h known)
  | setValue id v => exact does_of_outcome rfl (.wrote (setValue_stays id v e))
  | restore s =>
    have heq := restore_eq (e := e) (s := s)
    split at heq
    · exact does_of_refused rfl heq
    next checked =>
    split at heq
    · next long =>
      refine does_of_outcome rfl ?_
      rw [Act.outcome_error heq, Act.after_error heq]
      exact .interrupted checked long
    · next logged => exact does_of_report rfl heq (.restored checked logged)

/-! ## What every operation keeps -/

theorem Keeps.ready (h : e.Keeps e') (r : e.Ready) (typed : e'.store.Typed) : e'.Ready := by
  refine ⟨r.wellFormed.of_freeze_eq h.script, ?_, typed⟩
  have hscript : e'.script.freeze.schema = e.script.freeze.schema := congrArg Script.schema h.script
  exact h.schema.trans (r.schema.trans hscript.symm)

theorem Keeps.quiet (h : e.Keeps e') (q : e.Quiet) : e'.Quiet := by
  unfold Quiet
  rw [h.bus]
  exact q

theorem setOut_keeps : e.Keeps e.setOut := by
  unfold setOut
  split
  · exact ⟨rfl, rfl, rfl, rfl, rfl, rfl⟩
  · exact .refl e

/-- A move keeps what every operation keeps, also if it fails. -/
theorem moved_keeps (r : e.Ready) (write : Bool) :
    e.Keeps (e.moved (e.travel write)) ∧ (e.moved (e.travel write)).store.Typed := by
  have hc := travel_keeps e write
  have hkeeps : e.Keeps (e.setOut.afterChain (e.travel write).2) :=
    { setOut_keeps with functions := hc.functions, schema := hc.schema }
  rcases hr : e.travel write with ⟨halt | step, c⟩
  · rw [hr] at hc hkeeps
    exact ⟨hkeeps, hc.typed r.typed⟩
  · have hfit := r.fits_of_travel hr
    rw [hr] at hc hkeeps
    exact ⟨{ hkeeps with }, (hc.typed r.typed).insertAll fun x hx => hfit x ((Store.made_prefix _).subset hx)⟩

theorem Effect.keeps {op : Operation} {x : Except Error (Option Int)} (h : Effect e op x e')
    (r : e.Ready) : e.Keeps e' ∧ e'.store.Typed := by
  cases h with
  | refused => exact ⟨.refl e, r.typed⟩
  | halted _ way => exact way ▸ moved_keeps r true
  | started _ way => exact way ▸ moved_keeps r true
  | advanced way => exact way ▸ moved_keeps r true
  | fell _ _ way => exact way ▸ moved_keeps r true
  | stumbled _ way => exact way ▸ moved_keeps r true
  | wentBack => exact ⟨⟨rfl, rfl, rfl, rfl, rfl, rfl⟩, r.typed⟩
  | wrote h => exact ⟨h.toKeeps, h.typed r.typed⟩
  | wroteChoice h => exact ⟨h.toKeeps, h.typed r.typed⟩
  | chose h => exact ⟨{ h with }, h.typed r.typed⟩
  | restored checked =>
    refine ⟨⟨rfl, rfl, rfl, rfl, rfl, rfl⟩, fun id v hv => ?_⟩
    exact ((check_ok checked).2.2 (id, v) (OrderedMap.get?_eq_some_iff.1 hv)).congr rfl
  | interrupted checked =>
    refine ⟨⟨rfl, rfl, rfl, rfl, rfl, rfl⟩, (Store.typed_empty e.store.schema).insertAll fun x hx => ?_⟩
    exact ((check_ok checked).2.2 x ((Store.made_prefix _).subset hx)).congr rfl

/-- **What every operation keeps**, whatever comes of it. -/
theorem after_keeps (r : e.Ready) (op : Operation) :
    e.Keeps (op.act.after e) ∧ (op.act.after e).Ready := by
  obtain ⟨x, events, e', told, heffect, hafter, -⟩ := does r op
  obtain ⟨hk, ht⟩ := heffect.keeps r
  rw [hafter]
  have hk' : e.Keeps { e' with emitted := e'.emitted ++ told } := { hk with }
  exact ⟨hk', hk'.ready r ht⟩

/-- **What every run keeps.** -/
theorem run_keeps (r : e.Ready) (ops : List Operation) :
    e.Keeps (e.run ops) ∧ (e.run ops).Ready := by
  induction ops generalizing e with
  | nil => exact ⟨.refl e, r⟩
  | cons op rest ih =>
    obtain ⟨hk, hr⟩ := after_keeps r op
    obtain ⟨hk', hr'⟩ := ih hr
    exact ⟨hk.trans hk', hr'⟩

/-! ## A script to run -/

/-- A property for texts. -/
def note : Property := ⟨1, "note", .string, none, Int.zero_lt_one, by decide⟩

/-- A script without steps over a property for texts. -/
def blankSheet : Script := ⟨Schema.empty.declare note, .empty, none, false⟩

theorem blankSheet_built : blankSheet.Built :=
  .ofProperties (show Script.ofProperties [note] = .ok blankSheet from rfl)

/-- Two say steps that lead to each other, with a call step on the way to the second. -/
def relay : Script :=
  let up := blankSheet.withSay "Up" { id := .int 1, first := true, rules := [(none, .int 2)] }
  let call := up.withCall { name := "echo", result := some 1, properties := .ofList [("text", 1)] }
    { id := .int 2, rules := [(none, .int 3)] }
  call.withSay "Down" { id := .int 3, rules := [(none, .int 1)] }

theorem relay_built : relay.Built := ((blankSheet_built.withSay _ _).withCall _ _).withSay _ _

/-- A function that gives back what it is given. -/
def echo : HostFunction where
  run _ arguments := .ok ((arguments.get? "text").getD .unset)

/-- Functions to run the script with. -/
def echoes : Registry := ⟨.ofList [("echo", "echo", echo)], []⟩

theorem ofScript_fresh {script : Script} (b : script.Built) (registry : Registry) :
    (ofScript script registry).Fresh := fresh_of_create b (create_eq script registry)

theorem relay_fresh : (ofScript relay echoes).Fresh := ofScript_fresh relay_built echoes

/-- Two say steps, the first of which is left only once a note was made. -/
def gate : Script :=
  let shut := blankSheet.withSay "Shut" { id := .int 1, first := true, required := [1], rules := [(none, .int 2)] }
  shut.withSay "Open" { id := .int 2 }

theorem gate_fresh : (ofScript gate .empty).Fresh :=
  ofScript_fresh ((blankSheet_built.withSay _ _).withSay _ _) .empty

/-- A property for numbers. -/
def count : Property := ⟨1, "count", .int, none, Int.zero_lt_one, by decide⟩

/-- A script without steps over a property for numbers. -/
def tally : Script := ⟨Schema.empty.declare count, .empty, none, false⟩

theorem tally_built : tally.Built :=
  .ofProperties (show Script.ofProperties [count] = .ok tally from rfl)

/-- Two say steps, the second of which sets a number that cannot be logged. -/
def census : Script :=
  let village := tally.withSay "Village" { id := .int 1, first := true, rules := [(none, .int 2)] }
  village.withSay "Empire" { id := .int 2, defaults := .ofList [(1, .int Number.myriads)] }

theorem census_fresh : (ofScript census .empty).Fresh :=
  ofScript_fresh ((tally_built.withSay _ _).withSay _ _) .empty

end Engine
end Walkthrough
