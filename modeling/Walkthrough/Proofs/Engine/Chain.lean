/-
# What a chain can do

A chain is run in three parts that every statement about it goes through: it enters a step
(`putDefaults`, `lacking`), calls its function (`callFunction`) and leaves by the first rule that holds
(`onward`, `Leads`). What holds from each part to the next holds of the whole (`Chain.Sustained`): whatever comes
of a chain, the schema and the functions stay, and a store of values that fit stays one (`Chain.Keeps`). A chain
that ends well ends at a say step to which the rules lead (`run_ok`).
-/

import Walkthrough.Engine.Chain
import Walkthrough.Proofs.Script.Transitions

namespace Walkthrough
namespace Chain

/-- The required properties of a call step that neither the store nor the chain has filled in. -/
def lacking (c : Chain) (step : Step) : List Int :=
  (missing c.store step none).filter fun id => ((c.overlay.get? id).getD .unset).isBlank

@[simp] theorem logged_true (id : Int) (v : Value) : logged true id v = Store.log id v := if_pos rfl

@[simp] theorem logged_false (id : Int) (v : Value) : logged false id v = .ok () := if_neg Bool.false_ne_true

/-- What the function of a step answers, in the form of the property of the result. -/
def answer (f : FunctionCall) (c : Chain) : Except Error Value × Chain :=
  match c.arguments f with
  | .error e => (.error e, c)
  | .ok arguments =>
    let (result, registry) := c.registry.call f.name arguments
    let c := { c with registry }
    match result with
    | .error e => (.error e, c)
    | .ok v => (c.store.convert f.result v, c)

/-- A call writes the answer, and then logs it. -/
theorem callFunction_eq (write : Bool) (f : FunctionCall) (c : Chain) :
    callFunction write f c = match answer f c with
      | (.error e, c) => (.error e, c)
      | (.ok w, c) => (logged write f.result w, put write c f.result w) := by
  unfold callFunction answer
  cases c.arguments f with
  | error e => rfl
  | ok arguments =>
    dsimp only
    rcases c.registry.call f.name arguments with ⟨e | v, registry⟩
    · rfl
    · dsimp only
      cases c.store.convert f.result v <;> rfl

/-- Where a step leads once it was passed: to the target of the first rule that holds. -/
def onward (c : Chain) (script : Script) (step : Step) (choice : Option Choice) : Except Halt Step :=
  if step.isFinal then .error (.finished step.id)
  else match c.firstTarget step.rules with
    | .error e => .error (.failed e)
    | .ok none => .error (.failed (c.noTarget step choice))
    | .ok (some id) =>
      match target script id with
      | .ok next => .ok next
      | .error e => .error (.failed e)

/-- A call step after its default values were written: its required properties, its function, and the way
on. -/
def pass (write : Bool) (script : Script) (step : Step) (f : FunctionCall) (c : Chain) :
    Except Halt Step × Chain :=
  if !(c.lacking step).isEmpty then (.error (.failed (requiredError c.store (c.lacking step))), c)
  else match callFunction write f c with
    | (.error e, c) => (.error (.failed e), c)
    | (.ok (), c) => (c.onward script step none, c)

section Pass

variable {write : Bool} {script : Script} {step : Step} {f : FunctionCall} {c : Chain}

theorem pass_of_lacking (h : (c.lacking step).isEmpty = false) :
    pass write script step f c =
      (.error (.failed (requiredError c.store (c.lacking step))), c) := by
  unfold pass
  rw [h]
  rfl

theorem pass_of_filled (h : (c.lacking step).isEmpty = true) :
    pass write script step f c = match callFunction write f c with
      | (.error e, c) => (.error (.failed e), c)
      | (.ok (), c) => (c.onward script step none, c) := by
  unfold pass
  rw [h]
  rfl

end Pass

/-- The parts of running a call step. -/
theorem runStep_eq (write : Bool) (script : Script) (step : Step) (f : FunctionCall) (c : Chain) :
    runStep write script step f c = match putDefaults write step.defaults.entries c with
      | (.error e, c) => (.error (.failed e), c)
      | (.ok (), c) => pass write script step f c := by
  unfold runStep pass lacking onward
  rcases putDefaults write step.defaults.entries c with ⟨e | ⟨⟩, c₁⟩
  · rfl
  · dsimp only
    split
    · rfl
    · rcases callFunction write f c₁ with ⟨e | ⟨⟩, c₂⟩
      · rfl
      · dsimp only
        split
        · rfl
        · rcases c₂.firstTarget step.rules with e | _ | id
          · rfl
          · rfl
          · dsimp only
            cases target script id <;> rfl

/-! ## Where a step leads -/

theorem target_eq_ok_iff {script : Script} {id : Int} {t : Step} :
    target script id = .ok t ↔ script.step? id = some t := by
  unfold target
  cases script.step? id <;> simp

section FirstRule

variable {c : Chain} {script : Script} {step next : Step}

/-- A rule holds: it has no condition, or its condition is true of what the chain reads. -/
def Holds (c : Chain) (rule : Rule) : Prop :=
  ∀ p, rule.predicate = some p → ∃ values, c.namedValues p.parameters.entries = .ok values ∧
    p.evaluate (valueOf values) = .ok true

/-- A rule does not hold: its condition is false of what the chain reads, or the condition breaks off and
something that it reads is blank. -/
def Rejects (c : Chain) (rule : Rule) : Prop :=
  ∃ p values, rule.predicate = some p ∧ c.namedValues p.parameters.entries = .ok values ∧
    (p.evaluate (valueOf values) = .ok false ∨
      (∃ err, p.evaluate (valueOf values) = .error err) ∧ values.any (fun v => v.2.isBlank) = true)

/-- **The first rule that holds** leads to a step of the script. -/
def Leads (c : Chain) (script : Script) (rules : List Rule) (next : Step) : Prop :=
  ∃ before rule after, rules = before ++ rule :: after ∧ (∀ r ∈ before, c.Rejects r) ∧ c.Holds rule ∧
    script.step? rule.target = some next

theorem firstTarget_of_holds {rule : Rule} {rest : List Rule} (h : c.Holds rule) :
    c.firstTarget (rule :: rest) = .ok (some rule.target) := by
  unfold firstTarget
  cases hp : rule.predicate with
  | none => rfl
  | some p =>
    obtain ⟨values, hvalues, htrue⟩ := h p hp
    simp only [hvalues, bind, Except.bind, htrue]
    rfl

theorem firstTarget_of_rejects {rule : Rule} {rest : List Rule} (h : c.Rejects rule) :
    c.firstTarget (rule :: rest) = c.firstTarget rest := by
  obtain ⟨p, values, hp, hvalues, hrejects⟩ := h
  rw [firstTarget.eq_def]
  simp only [hp, hvalues, bind, Except.bind]
  rcases hrejects with hfalse | ⟨⟨err, herr⟩, hblank⟩
  · simp only [hfalse]
  · simp only [herr, hblank, if_true]

/-- A target is that of the first rule, or the first rule does not hold. -/
theorem firstTarget_cons {rule : Rule} {rest : List Rule} {id : Int}
    (h : c.firstTarget (rule :: rest) = .ok (some id)) :
    c.Holds rule ∧ rule.target = id ∨ c.Rejects rule ∧ c.firstTarget rest = .ok (some id) := by
  rw [firstTarget.eq_def] at h
  cases hp : rule.predicate with
  | none =>
    simp only [hp] at h
    cases h
    exact .inl ⟨fun p hp' => (nomatch hp.symm.trans hp'), rfl⟩
  | some p =>
    simp only [hp] at h
    cases hvalues : c.namedValues p.parameters.entries with
    | error err =>
      rw [hvalues] at h
      cases h
    | ok values =>
      simp only [hvalues, bind, Except.bind] at h
      split at h
      · next htrue =>
        cases h
        refine .inl ⟨fun q hq => ?_, rfl⟩
        obtain rfl : p = q := Option.some.inj (hp.symm.trans hq)
        exact ⟨values, hvalues, htrue⟩
      · next hfalse => exact .inr ⟨⟨p, values, hp, hvalues, .inl hfalse⟩, h⟩
      · next err herr =>
        split at h
        · next hblank => exact .inr ⟨⟨p, values, hp, hvalues, .inr ⟨⟨err, herr⟩, hblank⟩⟩, h⟩
        · cases h

/-- **The target that is found** is that of the first rule that holds. -/
theorem firstTarget_eq_some_iff {rules : List Rule} {id : Int} :
    c.firstTarget rules = .ok (some id) ↔
      ∃ before rule after, rules = before ++ rule :: after ∧ (∀ r ∈ before, c.Rejects r) ∧
        c.Holds rule ∧ rule.target = id := by
  induction rules with
  | nil =>
    refine iff_of_false (fun h => nomatch h) ?_
    rintro ⟨before, rule, after, h, -⟩
    exact absurd h.symm (List.append_ne_nil_of_right_ne_nil before (List.cons_ne_nil rule after))
  | cons rule rest ih =>
    constructor
    · intro h
      rcases firstTarget_cons h with ⟨hholds, hid⟩ | ⟨hrejects, hrest⟩
      · exact ⟨[], rule, rest, rfl, fun _ hr => (nomatch hr), hholds, hid⟩
      · obtain ⟨before, rule', after, rfl, hbefore, hholds⟩ := ih.1 hrest
        exact ⟨rule :: before, rule', after, rfl, List.forall_mem_cons.2 ⟨hrejects, hbefore⟩, hholds⟩
    · rintro ⟨_ | ⟨first, before⟩, rule', after, heq, hbefore, hholds, rfl⟩
      · obtain ⟨rfl, rfl⟩ := List.cons.inj heq
        exact firstTarget_of_holds hholds
      · obtain ⟨rfl, rfl⟩ := List.cons.inj heq
        obtain ⟨hfirst, hbefore⟩ := List.forall_mem_cons.1 hbefore
        rw [firstTarget_of_rejects hfirst]
        exact ih.2 ⟨before, rule', after, rfl, hbefore, hholds, rfl⟩

/-- **The way on** from a step is the one to which its first rule that holds leads. -/
theorem onward_eq_ok_iff (choice : Option Choice) :
    c.onward script step choice = .ok next ↔ c.Leads script step.rules next := by
  have hfirst : c.Leads script step.rules next ↔
      ∃ id, c.firstTarget step.rules = .ok (some id) ∧ target script id = .ok next := by
    simp only [firstTarget_eq_some_iff, target_eq_ok_iff]
    constructor
    · rintro ⟨before, rule, after, hrules, hbefore, hholds, hnext⟩
      exact ⟨rule.target, ⟨before, rule, after, hrules, hbefore, hholds, rfl⟩, hnext⟩
    · rintro ⟨id, ⟨before, rule, after, hrules, hbefore, hholds, rfl⟩, hnext⟩
      exact ⟨before, rule, after, hrules, hbefore, hholds, hnext⟩
  rw [hfirst]
  unfold onward
  cases hfinal : step.isFinal with
  | true =>
    rw [Step.isFinal, List.isEmpty_iff] at hfinal
    rw [hfinal]
    exact iff_of_false (fun h => nomatch h) (by rintro ⟨id, h, -⟩; cases h)
  | false =>
    simp only [Bool.false_eq_true, if_false]
    rcases c.firstTarget step.rules with err | _ | id
    · simp
    · simp
    · cases ht : target script id <;> simp [ht]

end FirstRule

theorem mem_of_firstTarget {c : Chain} {rules : List Rule} {id : Int}
    (h : c.firstTarget rules = .ok (some id)) : id ∈ rules.map Rule.target := by
  obtain ⟨before, rule, after, rfl, -, -, rfl⟩ := firstTarget_eq_some_iff.1 h
  exact List.mem_map_of_mem (List.mem_append_right _ List.mem_cons_self)

theorem onward_ok {c : Chain} {script : Script} {step next : Step} {choice : Option Choice}
    (h : c.onward script step choice = .ok next) :
    ∃ id ∈ step.rules.map Rule.target, script.step? id = some next := by
  obtain ⟨before, rule, after, hrules, -, -, hnext⟩ := (onward_eq_ok_iff choice).1 h
  refine ⟨rule.target, ?_, hnext⟩
  rw [hrules]
  exact List.mem_map_of_mem (List.mem_append_right _ List.mem_cons_self)

theorem runStep_ok {write : Bool} {script : Script} {step next : Step} {f : FunctionCall}
    {c d : Chain} (h : runStep write script step f c = (.ok next, d)) :
    ∃ id ∈ step.rules.map Rule.target, script.step? id = some next := by
  rw [runStep_eq] at h
  split at h
  · cases h
  unfold pass at h
  split at h
  · cases h
  split at h
  · cases h
  · exact onward_ok (Prod.mk.inj h).1

/-- **A chain that ends well** ends at a say step of the script to which its first step leads. -/
theorem run_ok {write : Bool} {script : Script} (w : script.WellFormed) :
    ∀ {fuel : Nat} {done : List Int} {step t : Step} {c d : Chain},
      run write script fuel done step c = (.ok t, d) → script.step? step.id = some step →
        t.isSay = true ∧ script.step? t.id = some t ∧ script.Leads step.id t.id := by
  intro fuel
  induction fuel with
  | zero =>
    intro done step t c d h hstep
    unfold run at h
    split at h
    · next hbody =>
      cases h
      have hsay : step.isSay = true := by simp only [Step.isSay, hbody]
      exact ⟨hsay, hstep, .say hstep hsay⟩
    · dsimp only at h
      split at h <;> cases h
  | succ fuel ih =>
    intro done step t c d h hstep
    unfold run at h
    split at h
    · next hbody =>
      cases h
      have hsay : step.isSay = true := by simp only [Step.isSay, hbody]
      exact ⟨hsay, hstep, .say hstep hsay⟩
    · next f hbody =>
      dsimp only at h
      split at h
      · cases h
      split at h
      · next next d' hrun =>
        obtain ⟨id, hid, hnext⟩ := runStep_ok hrun
        obtain rfl := w.keyed hnext
        obtain ⟨hsay, ht, hleads⟩ := ih h hnext
        have hcall : step.isSay = false := by simp only [Step.isSay, hbody]
        refine ⟨hsay, ht, .call hstep hcall ?_ hleads⟩
        rw [Script.targets, hstep]
        exact hid
      · cases h

/-! ## What a chain leaves alone -/

/-- **A relation that chains sustain**, whatever comes of them: it holds of doing nothing and of one thing after
the other, of noting a step, of writing a value that was converted, and of calling a function. -/
structure Sustained (write : Bool) (R : Chain → Chain → Prop) : Prop where
  refl : ∀ c, R c c
  trans : ∀ {c d b}, R c d → R d b → R c b
  walk : ∀ c id, R c { c with walked := c.walked ++ [id] }
  put : ∀ {c : Chain} {id v w}, c.store.convert id v = .ok w → R c (put write c id w)
  call : ∀ c name arguments, R c { c with registry := (c.registry.call name arguments).2 }

namespace Sustained

variable {write : Bool} {R : Chain → Chain → Prop} (h : Sustained write R)

include h

theorem putDefaults (es : List (Int × Value)) (c : Chain) : R c (putDefaults write es c).2 := by
  induction es generalizing c with
  | nil => exact h.refl c
  | cons e rest ih =>
    unfold Chain.putDefaults
    split
    · exact h.refl c
    next hw =>
    split
    · exact h.trans (h.put hw) (ih _)
    · exact h.put hw

theorem callFunction (f : FunctionCall) (c : Chain) : R c (callFunction write f c).2 := by
  unfold Chain.callFunction
  split
  · exact h.refl c
  next arguments _ =>
  have hcalled := h.call c f.name arguments
  dsimp only
  split
  · exact hcalled
  split
  · exact hcalled
  · next hw => exact h.trans hcalled (h.put hw)

theorem runStep (script : Script) (step : Step) (f : FunctionCall) (c : Chain) :
    R c (runStep write script step f c).2 := by
  rw [runStep_eq]
  have hdefaults := h.putDefaults step.defaults.entries c
  split
  · next hd => rwa [hd] at hdefaults
  · next d hd =>
    rw [hd] at hdefaults
    unfold pass
    split
    · exact hdefaults
    have hfunction := h.callFunction f d
    split
    · next hf => rw [hf] at hfunction; exact h.trans hdefaults hfunction
    · next hf => rw [hf] at hfunction; exact h.trans hdefaults hfunction

/-- **A chain sustains a relation** that its parts sustain, however far it comes. -/
theorem run {script : Script} {fuel : Nat} {done : List Int} {step : Step} {c : Chain} :
    R c (run write script fuel done step c).2 := by
  induction fuel generalizing done step c with
  | zero =>
    unfold Chain.run
    split
    · exact h.refl c
    · dsimp only
      split <;> exact h.walk c step.id
  | succ fuel ih =>
    unfold Chain.run
    split
    · exact h.refl c
    next f _ =>
    have hwalk := h.walk c step.id
    dsimp only
    split
    · exact hwalk
    have hstep := h.trans hwalk (h.runStep script step f { c with walked := c.walked ++ [step.id] })
    split
    · next hs => rw [hs] at hstep; exact h.trans hstep ih
    · next hs => rw [hs] at hstep; exact hstep

end Sustained

/-- What holds between a chain and what becomes of it. -/
structure Keeps (c d : Chain) : Prop where
  schema : d.store.schema = c.store.schema
  functions : d.registry.functions = c.registry.functions
  typed : c.store.Typed → d.store.Typed

namespace Keeps

theorem refl (c : Chain) : c.Keeps c := ⟨rfl, rfl, id⟩

theorem trans {c d e : Chain} (h : c.Keeps d) (h' : d.Keeps e) : c.Keeps e :=
  ⟨h'.schema.trans h.schema, h'.functions.trans h.functions, h'.typed ∘ h.typed⟩

end Keeps

theorem put_keeps {write : Bool} {c : Chain} {id : Int} {v : Value} (h : c.store.Fits id v) :
    c.Keeps (put write c id v) := by
  cases write
  · exact ⟨rfl, rfl, fun ht => ht⟩
  · exact ⟨rfl, rfl, fun ht => ht.write h⟩

theorem call_functions {r : Registry} {name : String} {arguments : Arguments} :
    (r.call name arguments).2.functions = r.functions := by
  unfold Registry.call
  dsimp only
  split
  · rfl
  · split <;> rfl

theorem keeps_sustained (write : Bool) : Sustained write Keeps where
  refl := .refl
  trans := .trans
  walk _ _ := ⟨rfl, rfl, fun h => h⟩
  put hw := put_keeps (Store.fits_of_convert hw)
  call _ _ _ := ⟨rfl, call_functions, fun h => h⟩

theorem putDefaults_keeps (write : Bool) (es : List (Int × Value)) (c : Chain) :
    c.Keeps (putDefaults write es c).2 := (keeps_sustained write).putDefaults es c

theorem callFunction_keeps (write : Bool) (f : FunctionCall) (c : Chain) :
    c.Keeps (callFunction write f c).2 := (keeps_sustained write).callFunction f c

theorem runStep_keeps (write : Bool) (script : Script) (step : Step) (f : FunctionCall) (c : Chain) :
    c.Keeps (runStep write script step f c).2 := (keeps_sustained write).runStep script step f c

/-- **Whatever comes of a chain**, the schema, the functions and the form of the values stay. -/
theorem run_keeps {write : Bool} {script : Script} {fuel : Nat} {done : List Int} {step : Step}
    {c : Chain} : c.Keeps (run write script fuel done step c).2 := (keeps_sustained write).run

end Chain
end Walkthrough
