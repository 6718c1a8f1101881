/-
# What is not filled in

A move says that properties are not filled in at three places, and means other properties at each:

| place | properties |
| --- | --- |
| before the current step is left | those that the step or its choice requires |
| before a call step calls its function | those that the step requires, and that the chain did not fill in |
| where no rule of a step holds | those that the step or its choice requires, or else those that its rules read |

What is said is true in all three (`Store.Lacks`): the properties are blank in the store that the move leaves
behind, each is named once, and by its name in the schema. What the current step requires is said before
anything else is done (`advance_of_blank`). Apart from that only a function of the host can say the same, in
the last call of the move (`Registry.Raised`); what reads values never does (`Error.isReading`).
-/

import Walkthrough.Proofs.Engine.Loops
import Walkthrough.Proofs.Engine.Structural

namespace Walkthrough

theorem nodup_eraseDups {α : Type} [BEq α] [LawfulBEq α] (l : List α) : l.eraseDups.Nodup := by
  induction hn : l.length using Nat.strongRecOn generalizing l with
  | ind n ih =>
    cases l with
    | nil => exact List.nodup_nil
    | cons a rest =>
      have hlength := List.length_filter_le (fun b => !b == a) rest
      rw [List.eraseDups_cons]
      refine List.nodup_cons.2 ⟨fun hmem => ?_, ih _ ?_ _ rfl⟩
      · simpa using List.mem_eraseDups.1 hmem
      · rw [← hn, List.length_cons]
        exact Nat.lt_succ_of_le hlength

namespace Store

/-- **A true complaint** about properties that are not filled in: each is named once and by its name in the
schema, and all of them are blank. -/
structure Lacks (s : Store) (ids : List Int) (names : List String) : Prop where
  once : ids.Nodup
  named : List.Forall₂ (fun id name => ∃ p, s.schema.get? id = some p ∧ p.name = name) ids names
  blank : ∀ id ∈ ids, (s.value id).isBlank = true

end Store

/-- An error that tells the truth about a store: if it says that properties are not filled in, they are not. -/
def Error.Truthful (s : Store) (err : Error) : Prop :=
  ∀ ids names, err = .script (.required ids names) → s.Lacks ids names

theorem Error.truthful_of_not_isRequired {err : Error} (h : err.isRequired = false) (s : Store) :
    err.Truthful s := by
  rintro ids names rfl
  cases h

/-- A refusal that says something else is true of every store, also where its message cannot be written. -/
theorem Error.truthful_raised {cause : ScriptError} (h : (Error.script cause).isRequired = false) (s : Store) :
    (Error.raised cause).Truthful s := by
  refine truthful_of_not_isRequired ?_ s
  obtain heq | heq := raised_eq_or cause
  · exact heq ▸ h
  · rw [heq]
    rfl

/-- Reading values is silent about what is not filled in. -/
theorem Error.truthful_of_isReading {err : Error} (h : err.isReading = true) (s : Store) : err.Truthful s :=
  truthful_of_not_isRequired (isRequired_of_isReading h) s

namespace Registry

/-- **A function of the host has failed**: the last call since a registry was as it was is answered with the
error. -/
def Raised (r r' : Registry) (err : Error) : Prop :=
  ∃ made call f, r'.calls = r.calls ++ made ++ [call] ∧
    r.functions.get? call.key = some (call.name, f) ∧
      f.run (history { r with calls := r.calls ++ made } call.key) call.arguments = .error err

/-- What has failed since later has failed since earlier. -/
theorem Raised.of_calls {r r₁ r' : Registry} {err : Error} (h : r₁.Raised r' err)
    (functions : r₁.functions = r.functions) (calls : ∃ made, r₁.calls = r.calls ++ made) : r.Raised r' err := by
  obtain ⟨made, call, f, hcalls, hf, hrun⟩ := h
  obtain ⟨earlier, hearlier⟩ := calls
  refine ⟨earlier ++ made, call, f, ?_, functions ▸ hf, ?_⟩
  · rw [hcalls, hearlier, List.append_assoc r.calls]
  · rw [← hrun, history, history, hearlier, List.append_assoc]

end Registry

namespace Chain

variable {write : Bool} {script : Script} {step : Step} {choice : Option Choice} {f : FunctionCall}
  {c d : Chain} {store : Store} {ids : List Int} {err : Error}

/-! ## Complaints -/

theorem mem_requiredIds {id : Int} : id ∈ Engine.requiredIds step choice ↔
    id ∈ step.required ∨ ∃ c, choice = some c ∧ id ∈ c.required := by
  unfold Engine.requiredIds
  rw [mem_ascending, List.mem_append]
  cases choice <;> simp

theorem mem_missing {id : Int} : id ∈ missing store step choice ↔
    (id ∈ step.required ∨ ∃ c, choice = some c ∧ id ∈ c.required) ∧ (store.value id).isBlank = true := by
  unfold missing
  rw [List.mem_filter, mem_requiredIds]

theorem pairwise_missing (store : Store) (step : Step) (choice : Option Choice) :
    (missing store step choice).Pairwise (· < ·) :=
  (pairwise_ascending _).filter _

theorem nodup_missing (store : Store) (step : Step) (choice : Option Choice) :
    (missing store step choice).Nodup :=
  (pairwise_missing store step choice).imp fun h => Int.ne_of_lt h

/-- The names of properties of the schema stand in the order of the properties. -/
theorem named_of_contains {schema : Schema} (known : ∀ id ∈ ids, schema.contains id = true) :
    List.Forall₂ (fun id name => ∃ p, schema.get? id = some p ∧ p.name = name) ids
      (ids.filterMap fun id => (schema.get? id).map Property.name) := by
  induction ids with
  | nil => exact .nil
  | cons id rest ih =>
    obtain ⟨hid, hrest⟩ := List.forall_mem_cons.1 known
    obtain ⟨p, hp⟩ := OrderedMap.contains_iff.1 hid
    have hname : (schema.get? id).map Property.name = some p.name := congrArg _ hp
    rw [List.filterMap_cons, hname]
    exact .cons ⟨p, hp, rfl⟩ (ih hrest)

/-- **A complaint about blank properties of the schema** is true. -/
theorem requiredError_truthful (known : ∀ id ∈ ids, store.schema.contains id = true) (once : ids.Nodup)
    (blank : ∀ id ∈ ids, (store.value id).isBlank = true) : (requiredError store ids).Truthful store := by
  intro ids' names h
  cases h
  exact ⟨once, named_of_contains known, blank⟩

/-- What a step and its choice require are properties of the schema. -/
theorem contains_of_mem_missing {schema : Schema} (hstep : step.Sound schema)
    (hchoice : ∀ c ∈ choice, c.Sound schema) : ∀ id ∈ missing store step choice, schema.contains id = true := by
  intro id hid
  rcases (mem_missing.1 hid).1 with hreq | ⟨c, hc, hreq⟩
  · exact hstep.required id hreq
  · exact (hchoice c hc).required id hreq

/-- **What a step and its choice require** and is blank is complained of truly. -/
theorem missing_truthful (hstep : step.Sound store.schema) (hchoice : ∀ c ∈ choice, c.Sound store.schema) :
    (requiredError store (missing store step choice)).Truthful store :=
  requiredError_truthful (contains_of_mem_missing hstep hchoice) (nodup_missing store step choice)
    fun _ hid => (mem_missing.1 hid).2

/-- What the rules of a step read are properties of the schema. -/
theorem contains_of_mem_blankInputs {schema : Schema} (hstep : step.Sound schema) :
    ∀ id ∈ c.blankInputs step.rules, schema.contains id = true := by
  intro id hid
  obtain ⟨rule, hrule, hread⟩ := List.mem_flatMap.1 (List.mem_filter.1 (List.mem_eraseDups.1 hid)).1
  cases hp : rule.predicate with
  | none =>
    rw [hp] at hread
    cases hread
  | some p =>
    rw [hp] at hread
    exact (hstep.rules rule hrule).header p hp id hread

theorem blank_of_mem_blankInputs {rules : List Rule} : ∀ id ∈ c.blankInputs rules,
    (c.store.value id).isBlank = true := by
  intro id hid
  have h := (List.mem_filter.1 (List.mem_eraseDups.1 hid)).2
  exact (Bool.and_eq_true_iff.1 h).2

/-- **Where no rule holds**, the complaint is true. -/
theorem noTarget_truthful (hstep : step.Sound c.store.schema) (hchoice : ∀ x ∈ choice, x.Sound c.store.schema) :
    (c.noTarget step choice).Truthful c.store := by
  unfold noTarget
  dsimp only
  split
  · exact requiredError_truthful (contains_of_mem_blankInputs hstep) (nodup_eraseDups _) blank_of_mem_blankInputs
  · exact missing_truthful hstep hchoice

/-- **Before a function is called**, the complaint is true. -/
theorem lacking_truthful (hstep : step.Sound c.store.schema) :
    (requiredError c.store (c.lacking step)).Truthful c.store := by
  have hsub : ∀ id ∈ c.lacking step, id ∈ missing c.store step none := fun id hid => (List.mem_filter.1 hid).1
  refine requiredError_truthful (fun id hid => ?_) ((nodup_missing _ _ _).filter _) fun id hid => ?_
  · exact contains_of_mem_missing hstep (fun _ hx => (Option.not_mem_none _ hx).elim) id (hsub id hid)
  · exact (mem_missing.1 (hsub id hid)).2

/-! ## Chains -/

/-- A result is true of a store if it is no error, or an error that tells the truth. -/
abbrev Truthful {α : Type} (s : Store) (x : Except Error α) : Prop := FailsOnly (fun err => err.Truthful s) x

/-- The way on from a step. -/
theorem onward_truthful (hstep : step.Sound c.store.schema) (hchoice : ∀ x ∈ choice, x.Sound c.store.schema)
    (script : Script) : Truthful c.store (Engine.verdict (c.onward script step choice)) := by
  have hrules := c.firstTarget_reads step.rules
  unfold onward
  split
  · exact .error (Error.truthful_of_not_isRequired rfl _)
  split
  · next err herr => exact .error (Error.truthful_of_isReading (hrules err herr) _)
  · exact .error (noTarget_truthful hstep hchoice)
  · next id _ =>
    unfold target
    cases script.step? id with
    | some next => exact .ok _
    | none => exact .error (Error.truthful_raised rfl _)

/-- A call whose function fails ends with that call. -/
theorem HostFails.raised (h : c.HostFails f err) :
    c.registry.Raised (callFunction write f c).2.registry err := by
  obtain ⟨arguments, registered, g, hargs, hprintable, hg, hrun⟩ := h
  refine ⟨[], ⟨nameKey f.name, registered, arguments⟩, g, ?_, hg, ?_⟩
  · unfold callFunction Registry.call
    simp only [hargs, hprintable, hg, hrun, if_true, List.append_nil]
  · rw [List.append_nil]
    exact hrun

/-- **One call step** fails with the truth, or because its function does. -/
theorem runStep_truthful (hstep : step.Sound c.store.schema)
    (h : Engine.verdict (runStep write script step f c).1 = .error err) :
    err.Truthful (runStep write script step f c).2.store ∨
      c.registry.Raised (runStep write script step f c).2.registry err := by
  have hdefaults := putDefaults_reads write step.defaults.entries c
  have hstill := (putDefaults_still write step.defaults.entries c).2
  have hkeeps := putDefaults_keeps write step.defaults.entries c
  rw [runStep_eq] at h ⊢
  rcases hput : putDefaults write step.defaults.entries c with ⟨err' | _, b⟩
  · rw [hput] at h hdefaults
    cases h
    exact .inl (Error.truthful_of_isReading (hdefaults err rfl) _)
  rw [hput] at h hstill hkeeps
  dsimp only at h hstill hkeeps ⊢
  have hstep' : step.Sound b.store.schema := hkeeps.schema ▸ hstep
  cases hlacking : (b.lacking step).isEmpty with
  | false =>
    rw [pass_of_lacking hlacking] at h ⊢
    cases h
    exact .inl (lacking_truthful hstep')
  | true =>
    have hcall := callFunction_keeps write f b
    rw [pass_of_filled hlacking] at h ⊢
    rcases hfunction : callFunction write f b with ⟨err' | _, d⟩
    · rw [hfunction] at h
      cases h
      rcases callFunction_error (congrArg Prod.fst hfunction) with hreading | hfails
      · exact .inl (Error.truthful_of_isReading hreading _)
      · -- Default values call no function, so the call counts from where the step began.
        have hraised : b.registry.Raised (callFunction write f b).2.registry err := hfails.raised
        rw [hfunction, hstill] at hraised
        exact .inr hraised
    · rw [hfunction] at h hcall
      have hstep'' : step.Sound d.store.schema := hcall.schema ▸ hstep'
      exact .inl (onward_truthful hstep'' (fun _ hx => (Option.not_mem_none _ hx).elim) script err h)

/-- **A chain** fails with the truth, or because a function of the host does. -/
theorem run_truthful (sound : script.Sound) {fuel : Nat} : ∀ {done : List Int} {step : Step} {c : Chain},
    script.step? step.id = some step → c.store.schema = script.schema →
      ∀ {err : Error}, Engine.verdict (run write script fuel done step c).1 = .error err →
        err.Truthful (run write script fuel done step c).2.store ∨
          c.registry.Raised (run write script fuel done step c).2.registry err := by
  induction fuel with
  | zero =>
    intro done step c hstep schema err h
    unfold run at h ⊢
    split at h
    · cases h
    · dsimp only at h ⊢
      split at h <;>
      · cases h
        exact .inl (Error.truthful_of_not_isRequired rfl _)
  | succ fuel ih =>
    intro done step c hstep schema err h
    cases hbody : step.body with
    | say text choices =>
      rw [run_of_say (by rw [Step.isSay, hbody])] at h
      cases h
    | call f =>
      by_cases hmet : step.id ∈ done
      · rw [run_of_met hbody hmet] at h ⊢
        cases h
        exact .inl (Error.truthful_of_not_isRequired rfl _)
      let b : Chain := { c with walked := c.walked ++ [step.id] }
      have hsound : step.Sound b.store.schema := schema ▸ sound.step hstep
      have hkeeps := runStep_keeps write script step f b
      have hcalls := (runStep_calls write script step f b).calls
      -- The chain ends in this step, or goes on to one where the store may be another.
      rcases hrun : runStep write script step f b with ⟨halt | next, d⟩
      · rw [run_of_stopped hbody hmet hrun] at h ⊢
        have hverdict : Engine.verdict (runStep write script step f b).1 = .error err := by rw [hrun]; exact h
        have htruth := runStep_truthful hsound hverdict
        rwa [hrun] at htruth
      · rw [run_of_passed hbody hmet hrun] at h ⊢
        rw [hrun] at hkeeps hcalls
        obtain ⟨id, -, hnext⟩ := runStep_ok hrun
        have hnext' : script.step? next.id = some next := by rwa [sound.keyed hnext]
        obtain ⟨made, hmade, -⟩ := hcalls
        refine (ih hnext' (hkeeps.schema.trans schema) h).imp_right fun hraised => ?_
        exact hraised.of_calls hkeeps.functions ⟨made, hmade⟩

end Chain

namespace Engine

variable {e : Engine} {err : Error}

/-! ## Moves -/

/-- What the current step or its choice requires. -/
def Requires (e : Engine) (id : Int) : Prop :=
  ∃ step, e.currentStep = some step ∧ (id ∈ step.required ∨ ∃ c, e.currentChoice = some c ∧ id ∈ c.required)

/-- The choice that was selected at a step is a choice of the script. -/
theorem sound_of_selectedChoice (sound : e.script.Sound) (id : Int) :
    ∀ c ∈ e.selectedChoice id, c.Sound e.script.schema := by
  intro c hc
  obtain ⟨choice, -, hchoice⟩ := Option.bind_eq_some_iff.1 hc
  exact sound.of_choice? hchoice

/-- **Setting out** fails with the truth. -/
theorem departure_truthful (sound : e.script.Sound) (schema : e.store.schema = e.script.schema) :
    Chain.Truthful e.store (verdict e.departure) := by
  have htarget : ∀ id err, Chain.target e.script id = .error err → err.Truthful e.store := by
    intro id err h
    unfold Chain.target at h
    split at h
    · cases h
    · obtain rfl := Except.error.inj h
      exact Error.truthful_raised rfl _
  unfold departure
  split
  · split
    · exact .error (Error.truthful_of_not_isRequired rfl _)
    · split
      · next err herr => exact .error (htarget _ err herr)
      · exact .ok _
  · next current _ =>
    split
    · next err herr => exact .error (htarget _ err herr)
    · next step hstep =>
      have hstep : step.Sound e.store.schema := schema ▸ sound.step (Chain.target_eq_ok_iff.1 hstep)
      have hchoice : ∀ c ∈ e.selectedChoice current, c.Sound e.store.schema :=
        schema ▸ sound_of_selectedChoice sound current
      dsimp only
      split
      · exact .error (Chain.missing_truthful hstep hchoice)
      · exact Chain.onward_truthful (c := e.newChain [current]) hstep hchoice e.script

/-- **The way of a move** fails with the truth, or because a function of the host does. -/
theorem travel_truthful (sound : e.script.Sound) (schema : e.store.schema = e.script.schema) {write : Bool}
    (h : verdict (e.travel write).1 = .error err) :
    err.Truthful (e.travel write).2.store ∨ e.registry.Raised (e.travel write).2.registry err := by
  have hdeparture := departure_truthful sound schema
  unfold travel at h ⊢
  cases hd : e.departure with
  | error halt =>
    rw [hd] at h hdeparture
    exact .inl (hdeparture err h)
  | ok step =>
    rw [hd] at h
    obtain ⟨id, hstep, -⟩ := departure_ok hd
    have hstep : e.script.step? step.id = some step := by rwa [sound.keyed hstep]
    exact Chain.run_truthful (c := e.newChain e.current.toList) sound hstep schema h

/-- **A step that is not filled in is not left.** What it requires is said before anything is done. -/
theorem advance_of_blank (r : e.Ready) (sound : e.script.Sound) {id : Int} (required : e.Requires id)
    (blank : (e.store.value id).isBlank = true) :
    ∃ ids names, advance e = .error (.script (.required ids names)) e ∧ e.store.Lacks ids names ∧
      ids.Pairwise (· < ·) ∧ ∀ id, id ∈ ids ↔ e.Requires id ∧ (e.store.value id).isBlank = true := by
  obtain ⟨step, hcurrent, hrequired⟩ := required
  obtain ⟨current, hc, hstep⟩ := Option.bind_eq_some_iff.1 hcurrent
  have hchoice : e.currentChoice = e.selectedChoice current := by rw [currentChoice, hc, Option.bind_some]
  have hmem : ∀ id, id ∈ Chain.missing e.store step (e.selectedChoice current) ↔
      e.Requires id ∧ (e.store.value id).isBlank = true := fun id => by
    rw [Chain.mem_missing, Requires, hcurrent, hchoice]
    simp only [Option.some.injEq, exists_eq_left']
  have hmissing : (Chain.missing e.store step (e.selectedChoice current)).isEmpty = false := by
    rw [List.isEmpty_eq_false_iff]
    exact List.ne_nil_of_mem ((hmem id).2 ⟨⟨step, hcurrent, hrequired⟩, blank⟩)
  have hdeparture : e.departure = .error (.failed
      (Chain.requiredError e.store (Chain.missing e.store step (e.selectedChoice current)))) := by
    unfold departure
    simp only [hc, Chain.target_eq_ok_iff.2 hstep, hmissing, Bool.not_false, if_true]
  have htruth := Chain.missing_truthful (r.schema ▸ sound.step hstep)
    (r.schema ▸ sound_of_selectedChoice sound current)
  refine ⟨_, _, ?_, htruth _ _ rfl, Chain.pairwise_missing _ _ _, hmem⟩
  rw [advance_eq r, moved, travel, hdeparture, setOut_of_started hc]
  rfl

/-- What going on refuses is what its way comes to, and the store is that of the way. -/
theorem verdict_of_advance (r : e.Ready) {cause : ScriptError}
    (h : advance.outcome e = .error (.script cause)) : verdict (e.travel true).1 = .error (.script cause) ∧
      (advance.after e).store = (e.travel true).2.store := by
  have heq := advance_eq r
  rw [Act.outcome_congr heq, outcome_report] at h
  have hverdict : (verdict (landing (e.travel true).1)).map Step.id = .error (.script cause) := by
    split at h
    · next err hobjection =>
      obtain ⟨message, rfl⟩ := host_of_firstObjection hobjection
      cases h
    · exact h
  rcases hway : e.travel true with ⟨halt | step, c⟩
  · rw [hway] at heq hverdict
    obtain ⟨told, htold⟩ := after_report ((verdict (.error halt)).map Step.id) (moveEvents e.current (.error halt))
      (e.moved (.error halt, c))
    rw [Act.after_congr heq]
    refine ⟨?_, congrArg store htold⟩
    cases halt <;> exact congrArg Except.error (Except.error.inj hverdict)
  · -- A step that is come to is no refusal, even if its default values cannot be logged.
    rw [hway] at hverdict
    cases hstep : step.isLoggable with
    | true =>
      rw [landing_of_isLoggable hstep] at hverdict
      cases hverdict
    | false =>
      rw [landing_of_not_isLoggable hstep] at hverdict
      cases hverdict

/-- **Complaints about what is not filled in are true.** If something that the current step or its choice
requires is blank, going on fails with exactly what is blank of it, in ascending order, and the engine is as
it was: nothing was called, told or written. Whenever else going on says that properties are not filled in,
a function of the host has said so in the last call, or each of the properties is named once and by its name,
and is blank in the store that is left behind. -/
theorem complaints_exact {e₀ : Engine} (fresh : e₀.Fresh) (requests : List Request) :
    let e := e₀.serve requests
    ((∃ id, e.Requires id ∧ (e.store.value id).isBlank = true) →
      ∃ ids names, advance e = .error (.script (.required ids names)) e ∧ e.store.Lacks ids names ∧
        ids.Pairwise (· < ·) ∧ ∀ id, id ∈ ids ↔ e.Requires id ∧ (e.store.value id).isBlank = true) ∧
    ∀ ids names, advance.outcome e = .error (.script (.required ids names)) →
      e.registry.Raised (advance.after e).registry (.script (.required ids names)) ∨
        (advance.after e).store.Lacks ids names := by
  intro e
  obtain ⟨hk, hr⟩ := serve_keeps fresh.ready requests
  have sound : e.script.Sound := fresh.built.sound.of_freeze_eq hk.script
  constructor
  · rintro ⟨id, hrequired, hblank⟩
    exact advance_of_blank hr sound hrequired hblank
  · intro ids names h
    obtain ⟨hverdict, hstore⟩ := verdict_of_advance hr h
    have hregistry := (registry_report (advance_eq hr)).trans (registry_moved _ _)
    rw [hstore, hregistry]
    exact (travel_truthful sound hr.schema hverdict).symm.imp_right fun htruth => htruth ids names rfl

/-- A gate is shut until a note was made. -/
theorem gate_complains :
    let e := (ofScript gate .empty).serve [.perform .start]
    ∃ ids names, advance e = .error (.script (.required ids names)) e ∧ e.store.Lacks ids names ∧
      ids.Pairwise (· < ·) ∧ ∀ id, id ∈ ids ↔ e.Requires id ∧ (e.store.value id).isBlank = true := by
  intro e
  have hrequired : e.currentStep.map Step.required = some [1] := by decide +kernel
  have hblank : (e.store.value 1).isBlank = true := by decide +kernel
  obtain ⟨step, hstep, hone⟩ := Option.map_eq_some_iff.1 hrequired
  have hmem : 1 ∈ step.required := by simp [hone]
  exact (complaints_exact gate_fresh [.perform .start]).1 ⟨1, ⟨step, hstep, .inl hmem⟩, hblank⟩

end Engine
end Walkthrough
