/-
# The course of a chain

What a chain that writes for good has done when it ends, be it at a say step or with an error. A call step is
completed once its result is written and logged (`Completes`), or it breaks off (`Breaks`):

| what breaks a call step off | it has written |
| --- | --- |
| a default value cannot be logged | its default values up to that one |
| something that it requires is missing | its default values |
| its function fails, or the result does not fit | its default values |
| the result cannot be logged | its default values and the result |

A `Course` is the list of the steps that were completed, in order, and the one that broke off at the end, if
any.

| the chain ends | completed | broke off |
| --- | --- | --- |
| at a say step | all call steps before it | |
| at a call step that was completed before | all call steps so far | |
| inside of a call step | the call steps before it | that step |
| after a call step: finished, no rule holds, no such step | that one, and those before it | |

Every chain has a course (`run_course`), which is read off its trail, and a course tells the whole effect on
the store (`Course.store_eq`).
-/

import Walkthrough.Proofs.Engine.Trail

namespace Walkthrough

namespace Chain

/-- A call step that was completed: what it called, and the result in the form of its property. -/
structure Completion where
  step : Step
  function : FunctionCall
  result : Value

/-- What a completed call step writes: its default values, and then the result. -/
def Completion.writes (x : Completion) : List (Int × Value) :=
  x.step.defaults.entries ++ [(x.function.result, x.result)]

/-- A call step that broke off, and what it had written by then. -/
structure Begun where
  step : Step
  writes : List (Int × Value)

variable {script : Script} {step next : Step} {f : FunctionCall} {c b d : Chain} {x : Completion} {y : Begun}

/-- A call step is completed: all that it requires is filled in once its default values are written, and its
function answers with a value that can be logged. -/
def Completes (c : Chain) (x : Completion) (d : Chain) : Prop :=
  ∃ b a, enter true x.step c = (.ok (), b) ∧ b.lacking x.step = [] ∧ answer x.function b = (.ok x.result, a) ∧
    Store.isLoggable x.function.result x.result = true ∧ d = put true a x.function.result x.result

/-- **A call step breaks off**: a write cannot be logged, something that it requires is missing, or its
function, or what that function is given or gives, ends the chain. -/
inductive Breaks (c : Chain) (f : FunctionCall) : Begun → Error → Chain → Prop
  | defaults {step : Step} {d : Chain} (long : step.isLoggable = false)
      (enters : enter true step c = (.error .tooManyDigits, d)) :
      Breaks c f ⟨step, Store.made step.defaults.entries⟩ .tooManyDigits d
  | required {step : Step} {b : Chain} (enters : enter true step c = (.ok (), b)) (lacks : b.lacking step ≠ []) :
      Breaks c f ⟨step, step.defaults.entries⟩ (requiredError b.store (b.lacking step)) b
  | function {step : Step} {b d : Chain} {error : Error} (enters : enter true step c = (.ok (), b))
      (filled : b.lacking step = []) (fails : answer f b = (.error error, d)) :
      Breaks c f ⟨step, step.defaults.entries⟩ error d
  | result {step : Step} {b a : Chain} {w : Value} (enters : enter true step c = (.ok (), b))
      (filled : b.lacking step = []) (answers : answer f b = (.ok w, a))
      (long : Store.isLoggable f.result w = false) :
      Breaks c f ⟨step, step.defaults.entries ++ [(f.result, w)]⟩ .tooManyDigits (put true a f.result w)

/-- **The course of a chain** from a step to its end. `done` are the call steps that were completed before. -/
inductive Course (script : Script) : List Int → Step → Chain → List Completion → Option Begun →
    Except Halt Step → Chain → Prop
  | reached {done : List Int} {step : Step} {c : Chain} (say : step.isSay = true) :
      Course script done step c [] none (.ok step) c
  | repeated {done : List Int} {step : Step} {f : FunctionCall} {c : Chain} (body : step.body = .call f)
      (met : step.id ∈ done) :
      Course script done step c [] none (.error (.looped (c.walked ++ [step.id])))
        { c with walked := c.walked ++ [step.id] }
  | broke {done : List Int} {y : Begun} {f : FunctionCall} {c d : Chain} {error : Error}
      (body : y.step.body = .call f) (new : y.step.id ∉ done) (breaks : Breaks c f y error d) :
      Course script done y.step c [] (some y) (.error (.failed error)) d
  | halted {done : List Int} {x : Completion} {c d : Chain} {halt : Halt}
      (body : x.step.body = .call x.function) (new : x.step.id ∉ done) (completes : Completes c x d)
      (onward : d.onward script x.step none = .error halt) :
      Course script done x.step c [x] none (.error halt) d
  | passed {done : List Int} {x : Completion} {next : Step} {c b d : Chain} {xs : List Completion}
      {begun : Option Begun} {r : Except Halt Step} (body : x.step.body = .call x.function)
      (new : x.step.id ∉ done) (completes : Completes c x b)
      (onward : b.onward script x.step none = .ok next)
      (rest : Course script (x.step.id :: done) next b xs begun r d) :
      Course script done x.step c (x :: xs) begun r d

/-- What a course writes: for each step that was completed its default values and its result, and what the step
that broke off had written. -/
def courseWrites (xs : List Completion) (begun : Option Begun) : List (Int × Value) :=
  xs.flatMap Completion.writes ++ (begun.map Begun.writes).getD []

/-! ## What a course writes -/

/-- **Entering a step of the script** writes its default values, up to the first that cannot be logged. -/
theorem enter_eq (w : script.WellFormed) (hstep : script.step? step.id = some step)
    (schema : c.store.schema = script.schema) : enter true step c = (Store.logAll step.defaults.entries, { c with
      overlay := c.overlay.insertAll (Store.made step.defaults.entries)
      store := c.store.overwritten (Store.made step.defaults.entries)
      walked := c.walked ++ [step.id] }) :=
  putDefaults_true (c := { c with walked := c.walked ++ [step.id] }) fun e he => (w.fits hstep e he).congr schema

theorem store_enter (w : script.WellFormed) (hstep : script.step? step.id = some step)
    (schema : c.store.schema = script.schema) (h : enter true step c = (.ok (), b)) :
    b.store = c.store.overwritten step.defaults.entries := by
  obtain ⟨hlog, rfl⟩ := Prod.mk.inj ((enter_eq w hstep schema).symm.trans h)
  exact congrArg c.store.overwritten (Store.made_of_logAll hlog)

/-- Nothing is written to find the answer of a function. -/
theorem store_answer (f : FunctionCall) (c : Chain) : (answer f c).2.store = c.store := by
  unfold answer
  split
  · rfl
  · dsimp only
    split <;> rfl

theorem store_put_answer {w : Value} (h : answer f b = (.ok w, d)) :
    (put true d f.result w).store = b.store.overwritten [(f.result, w)] := by
  have hstore := store_answer f b
  rw [h] at hstore
  exact congrArg (fun s => Store.write s f.result w) hstore

theorem Completes.store_eq (w : script.WellFormed) (hstep : script.step? x.step.id = some x.step)
    (schema : c.store.schema = script.schema) (h : Completes c x d) :
    d.store = c.store.overwritten x.writes := by
  obtain ⟨b, a, hb, -, ha, -, rfl⟩ := h
  rw [Completion.writes, Store.overwritten_append, ← store_enter w hstep schema hb]
  exact store_put_answer ha

theorem Breaks.store_eq (w : script.WellFormed) (hstep : script.step? y.step.id = some y.step)
    (schema : c.store.schema = script.schema) {error : Error} (h : Breaks c f y error d) :
    d.store = c.store.overwritten y.writes := by
  cases h with
  | defaults long enters =>
    obtain ⟨-, rfl⟩ := Prod.mk.inj ((enter_eq w hstep schema).symm.trans enters)
    rfl
  | required enters lacks => exact store_enter w hstep schema enters
  | @function step b d error enters filled fails =>
    have hstore := store_answer f b
    rw [fails] at hstore
    exact hstore.trans (store_enter w hstep schema enters)
  | result enters filled answers long =>
    rw [Store.overwritten_append, ← store_enter w hstep schema enters]
    exact store_put_answer answers

/-- **A course tells what was written**, in the order of execution. -/
theorem Course.store_eq (w : script.WellFormed) {done : List Int} {xs : List Completion}
    {begun : Option Begun} {r : Except Halt Step} (h : Course script done step c xs begun r d)
    (hstep : script.step? step.id = some step) (schema : c.store.schema = script.schema) :
    d.store = c.store.overwritten (courseWrites xs begun) := by
  induction h with
  | reached => rfl
  | repeated => rfl
  | broke body new breaks => exact breaks.store_eq w hstep schema
  | halted body new completes onward =>
    rw [courseWrites, List.flatMap_singleton]
    simpa using completes.store_eq w hstep schema
  | passed body new completes onward rest ih =>
    have hstore := completes.store_eq w hstep schema
    obtain ⟨id, -, hnext⟩ := onward_ok onward
    obtain rfl := w.keyed hnext
    rw [ih hnext (by rw [hstore]; exact schema), hstore, ← Store.overwritten_append, courseWrites,
      courseWrites, List.flatMap_cons, List.append_assoc]

/-- A course that reaches a step has completed every step that it entered, and the step is one of the
script. -/
theorem Course.reaches (w : script.WellFormed) {done : List Int} {xs : List Completion}
    {begun : Option Begun} {r : Except Halt Step} (h : Course script done step c xs begun r d)
    (hstep : script.step? step.id = some step) {t : Step} (hr : r = .ok t) :
    begun = none ∧ script.step? t.id = some t := by
  induction h with
  | reached =>
    cases hr
    exact ⟨rfl, hstep⟩
  | repeated => cases hr
  | broke => cases hr
  | halted => cases hr
  | passed body new completes onward rest ih =>
    obtain ⟨id, -, hnext⟩ := onward_ok onward
    obtain rfl := w.keyed hnext
    exact ih hnext hr

/-! ## Every chain has a course -/

/-- **One call step** is completed, or it breaks off. -/
theorem runStep_completes (w : script.WellFormed) (hstep : script.step? step.id = some step)
    (schema : c.store.schema = script.schema) (f : FunctionCall) :
    let y := runStep true script step f { c with walked := c.walked ++ [step.id] }
    (∃ writes error, Breaks c f ⟨step, writes⟩ error y.2 ∧ y.1 = .error (.failed error)) ∨
      ∃ v, Completes c ⟨step, f, v⟩ y.2 ∧ y.1 = y.2.onward script step none := by
  rw [runStep_eq_enter]
  rcases hb : enter true step c with ⟨err | _, b⟩
  · have hlog : step.isLoggable = false := Bool.eq_false_iff.2 fun hlog => by
      rw [enter_eq w hstep schema, step.logAll_defaults hlog] at hb
      cases hb
    obtain rfl : Error.tooManyDigits = err := by
      rw [enter_eq w hstep schema, step.logAll_defaults_error hlog] at hb
      exact Except.error.inj (Prod.mk.inj hb).1
    exact .inl ⟨_, _, .defaults hlog hb, rfl⟩
  dsimp only
  by_cases hlacking : b.lacking step = []
  · rw [pass_of_filled (by rw [hlacking]; rfl), callFunction_eq]
    rcases ha : answer f b with ⟨error | v, a⟩
    · exact .inl ⟨_, error, .function hb hlacking ha, rfl⟩
    · dsimp only
      rw [logged_true]
      cases hlog : Store.isLoggable f.result v with
      | false =>
        rw [Store.log_of_not_isLoggable hlog]
        exact .inl ⟨_, _, .result hb hlacking ha hlog, rfl⟩
      | true =>
        rw [Store.log_of_isLoggable hlog]
        exact .inr ⟨v, ⟨b, a, hb, hlacking, ha, hlog, rfl⟩, rfl⟩
  · have hne : (b.lacking step).isEmpty = false := by simpa using hlacking
    rw [pass_of_lacking hne]
    exact .inl ⟨_, _, .required hb hlacking, rfl⟩

/-- **The course of a trail** that passes no step twice. -/
theorem Trail.course (w : script.WellFormed) {x z : Step × Chain} {path : List (Step × Chain)}
    (h : Trail true script x path z) (hx : script.step? x.1.id = some x.1)
    (schema : x.2.store.schema = script.schema) {done : List Int} {begun : Option Step}
    {r : Except Halt Step} (nodup : ((trailIds path).reverse ++ done).Nodup)
    (ends : Ends true script ((trailIds path).reverse ++ done) z begun r d) :
    ∃ xs begun, Course script done x.1 x.2 xs begun r d := by
  induction h generalizing done with
  | nil x =>
    cases ends with
    | arrived say => exact ⟨[], none, .reached say⟩
    | returned body back => exact ⟨[], none, .repeated body back⟩
    | @stopped f halt d body new stops =>
      have hsteps := runStep_completes w hx schema f
      rw [stops] at hsteps
      rcases hsteps with ⟨writes, error, hbreaks, herror⟩ | ⟨v, hcompletes, honward⟩
      · obtain rfl : halt = .failed error := Except.error.inj herror
        exact ⟨[], some ⟨x.1, writes⟩, .broke body new hbreaks⟩
      · exact ⟨_, none, .halted (x := ⟨x.1, f, v⟩) body new hcompletes honward.symm⟩
  | @cons x y z path hop rest ih =>
    have hy := hop.step?_eq w
    obtain ⟨f, body, hrun⟩ := hop
    rw [trailIds_cons] at nodup ends
    have new : x.1.id ∉ done := (List.nodup_cons.1 (List.nodup_append.1 nodup).2.1).1
    have hsteps := runStep_completes w hx schema f
    rw [hrun] at hsteps
    rcases hsteps with ⟨-, error, -, herror⟩ | ⟨v, hcompletes, honward⟩
    · cases herror
    · have hschema : y.2.store.schema = script.schema := by
        rw [hcompletes.store_eq w hx schema]
        exact schema
      obtain ⟨xs, begun, hcourse⟩ := ih hy hschema nodup ends
      exact ⟨_, begun, .passed (x := ⟨x.1, f, v⟩) body new hcompletes honward.symm hcourse⟩

/-- **Every chain has a course.** -/
theorem run_course (w : script.WellFormed) {fuel : Nat} {done : List Int} {step : Step} {c : Chain}
    (nodup : done.Nodup) (known : done ⊆ script.steps.keys) (hfuel : script.steps.size ≤ fuel + done.length)
    (hstep : script.step? step.id = some step) (schema : c.store.schema = script.schema) :
    ∃ xs begun, Course script done step c xs begun (run true script fuel done step c).1
      (run true script fuel done step c).2 := by
  obtain ⟨path, last, begun, htrail, hnodup, hends⟩ := exists_trail true w nodup known hfuel hstep
  exact htrail.course w hstep schema hnodup hends

end Chain
end Walkthrough
