/-
# What looking ahead foretells

Looking ahead runs the chain of `advance` on trial: what it writes lies in an overlay, and the store stays
as it is. Both read the same all the way (`Chain.Sim`), with two exceptions. A call step misses a required
property if it is blank in the store *and* in the overlay. For good, the store has what the chain wrote; on
trial it has what was there before. So a property that the chain blanked is missed for good but not on
trial, if the store holds a value for it (`Chain.Blanks`). And only what is written for good is logged, so
that a value that cannot be logged breaks the chain off for good only (`Chain.Overlong`).

| the chain, at a call step | on trial | for good |
| --- | --- | --- |
| did not write a required property that is blank | missed | missed |
| blanked a required property that was blank | missed | missed |
| blanked a required property that was filled in | **not missed** | missed |
| writes a value that cannot be logged | **goes on** | breaks off |

So `advance` never reaches a step that was not foretold, and it reaches the step that was foretold unless
the chain lost a required property on the way, or came to a value that cannot be logged (`advance_ok_iff`).
-/

import Walkthrough.Proofs.Engine.Run
import Walkthrough.Proofs.Engine.Simulation

namespace Walkthrough
namespace Chain

variable {s c d : Chain} {script : Script}

/-- A required property of a step was blanked by the chain, while the store of the chain still holds a
value. -/
def Blanks (c : Chain) (step : Step) : Prop :=
  ∃ id ∈ Engine.requiredIds step none, ∃ v,
    c.overlay.get? id = some v ∧ v.isBlank = true ∧ (c.store.value id).isBlank = false

/-- A chain on trial comes to a call step that requires a property which the chain blanked. -/
def Loses (script : Script) (x : Step × Chain) : Prop :=
  ∃ y, Relation.ReflTransGen (Hop false script) x y ∧ y.1.isCall = true ∧
    ∃ c, enter false y.1 y.2 = (.ok (), c) ∧ c.Blanks y.1

/-- What a call step has written can be logged: its default values, and its result. -/
def Logs (step : Step) (f : FunctionCall) (d : Chain) : Prop :=
  step.isLoggable = true ∧ ∀ w, d.overlay.get? f.result = some w → Store.isLoggable f.result w = true

/-- A chain on trial passes a call step that has written something which cannot be logged. -/
def Overlong (script : Script) (x : Step × Chain) : Prop :=
  ∃ y z f, Relation.ReflTransGen (Hop false script) x y ∧ Hop false script y z ∧ y.1.body = .call f ∧
    ¬Logs y.1 f z.2

theorem mem_lacking {step : Step} {id : Int} : id ∈ c.lacking step ↔
    id ∈ Engine.requiredIds step none ∧ (c.store.value id).isBlank = true ∧
      ((c.overlay.get? id).getD .unset).isBlank = true := by
  unfold lacking missing
  rw [List.mem_filter, List.mem_filter, and_assoc]

/-- **What is missed for good** is what is missed on trial, and what the chain blanked. -/
theorem Sim.lacking_isEmpty_iff (h : Sim s s false true c d) (step : Step) :
    (d.lacking step).isEmpty = true ↔ (c.lacking step).isEmpty = true ∧ ¬c.Blanks step := by
  have hc : ∀ id, c.store.value id = s.store.value id := h.left.value
  have hd : ∀ id, d.store.value id = (c.overlay.get? id).getD (s.store.value id) := fun id => by
    rw [h.right.value, h.overlay]
    rfl
  simp only [List.isEmpty_iff, List.eq_nil_iff_forall_not_mem, mem_lacking, hc, hd, h.overlay]
  constructor
  · intro hnone
    refine ⟨fun id hid => hnone id ⟨hid.1, ?_, hid.2.2⟩, ?_⟩
    · cases ho : c.overlay.get? id with
      | none => exact hid.2.1
      | some v => simpa [ho] using hid.2.2
    · rintro ⟨id, hid, v, hv, hblank, -⟩
      exact hnone id ⟨hid, by simpa [hv] using hblank, by simpa [hv] using hblank⟩
  · rintro ⟨hnone, hblanks⟩ id ⟨hid, hstore, hoverlay⟩
    cases ho : c.overlay.get? id with
    | none => exact hnone id ⟨hid, by simpa [ho] using hstore, hoverlay⟩
    | some v =>
      rw [ho] at hoverlay
      cases hs : (s.store.value id).isBlank with
      | true => exact hnone id ⟨hid, hs, by simpa [ho] using hoverlay⟩
      | false => exact hblanks ⟨id, hid, v, ho, hoverlay, by rw [hc]; exact hs⟩

/-- The next step is the same for good and on trial. -/
theorem Sim.onward_ok_iff (h : Sim s s false true c d) {step next : Step} :
    d.onward script step none = .ok next ↔ c.onward script step none = .ok next := by
  have hf : d.firstTarget step.rules = c.firstTarget step.rules :=
    firstTarget_congr fun _ _ _ _ _ _ => h.value_eq fun _ => rfl
  unfold onward
  rw [hf]
  split
  · simp
  · rcases c.firstTarget step.rules with err | _ | id
    · simp
    · simp
    · rfl

/-- **A function** is called for good as it is on trial, unless its result cannot be logged. -/
theorem Sim.callFunction_ok_iff (h : Sim s s false true c d) (f : FunctionCall) :
    let x := Chain.callFunction false f c
    let y := Chain.callFunction true f d
    (y.1 = .ok () ↔ x.1 = .ok () ∧ ∀ w, x.2.overlay.get? f.result = some w → Store.isLoggable f.result w = true) ∧
      (y.1 = .ok () → Sim s s false true x.2 y.2) := by
  obtain ⟨hr, hs⟩ := h.answer (arguments_congr (f := f) fun _ _ => h.value_eq fun _ => rfl)
  dsimp only
  rw [callFunction_eq, callFunction_eq]
  rcases hc : Chain.answer f c with ⟨rc, c₁⟩
  rcases hd : Chain.answer f d with ⟨rd, d₁⟩
  rw [hc] at hr hs
  rw [hd] at hr hs
  obtain rfl : rd = rc := hr
  cases rd with
  | error err => exact ⟨iff_of_false (fun h => nomatch h) (fun h => nomatch h.1), fun h => nomatch h⟩
  | ok w =>
    have hwritten : (Chain.put false c₁ f.result w).overlay.get? f.result = some w :=
      OrderedMap.get?_insert.trans (if_pos rfl)
    dsimp only
    rw [logged_true, logged_false, Store.log_eq_ok_iff, hwritten]
    refine ⟨⟨fun hlog => ⟨rfl, fun v hv => Option.some.inj hv ▸ hlog⟩, fun h => h.2 w rfl⟩, fun _ => ?_⟩
    exact hs.put f.result w

/-- The rest of a call step leads on for good if it does on trial, nothing that it requires was blanked, and its
result can be logged. -/
theorem Sim.pass_ok_iff (h : Sim s s false true c d) (script : Script) (step : Step)
    (f : FunctionCall) :
    let x := pass false script step f c
    let y := pass true script step f d
    (∀ next, y.1 = .ok next ↔ x.1 = .ok next ∧ ¬c.Blanks step ∧
      ∀ w, x.2.overlay.get? f.result = some w → Store.isLoggable f.result w = true) ∧
      ∀ next, y.1 = .ok next → Sim s s false true x.2 y.2 := by
  intro x y
  have hlacking := h.lacking_isEmpty_iff step
  cases hd : (d.lacking step).isEmpty with
  | false =>
    -- For good something is missed; on trial it is missed as well, or it was blanked.
    have hy : y = _ := pass_of_lacking hd
    rw [hy]
    refine ⟨fun next => iff_of_false (fun hnext => by cases hnext) ?_, fun next hnext => by cases hnext⟩
    rintro ⟨hnext, hblanks, -⟩
    have hc : (c.lacking step).isEmpty = false := by
      rw [Bool.eq_false_iff]
      intro hc
      rw [hlacking.2 ⟨hc, hblanks⟩] at hd
      cases hd
    have hx : x = _ := pass_of_lacking hc
    rw [hx] at hnext
    cases hnext
  | true =>
    obtain ⟨hc, hblanks⟩ := hlacking.1 hd
    obtain ⟨hiff, hsim⟩ := h.callFunction_ok_iff f
    have hx : x = _ := pass_of_filled hc
    have hy : y = _ := pass_of_filled hd
    rcases hc' : Chain.callFunction false f c with ⟨rc, c₂⟩
    rcases hd' : Chain.callFunction true f d with ⟨rd, d₂⟩
    rw [hc'] at hiff hsim hx
    rw [hd'] at hiff hsim hy
    rw [hx, hy]
    cases rd with
    | error err =>
      refine ⟨fun next => iff_of_false (fun hnext => nomatch hnext) ?_, fun next hnext => nomatch hnext⟩
      rintro ⟨hnext, -, hlog⟩
      cases rc with
      | error err' => cases hnext
      | ok _ => cases hiff.2 ⟨rfl, hlog⟩
    | ok _ =>
      obtain ⟨hrc, hlog⟩ := hiff.1 rfl
      obtain rfl : rc = .ok () := hrc
      have hs := hsim rfl
      refine ⟨fun next => ?_, fun _ _ => hs⟩
      rw [hs.onward_ok_iff]
      exact ⟨fun hnext => ⟨hnext, hblanks, hlog⟩, And.left⟩

/-- **One call step** leads on for good if it does on trial, nothing that it requires was blanked, and what it
writes can be logged. Then both chains have done the same. -/
theorem Sim.runStep_ok_iff (h : Sim s s false true c d) (script : Script) {step : Step}
    (fits : ∀ e ∈ step.defaults.entries, s.store.Fits e.1 e.2) (f : FunctionCall) :
    let x := runStep false script step f { c with walked := c.walked ++ [step.id] }
    let y := runStep true script step f { d with walked := d.walked ++ [step.id] }
    (∀ next, y.1 = .ok next ↔
      x.1 = .ok next ∧ (∀ b, Chain.enter false step c = (.ok (), b) → ¬b.Blanks step) ∧ Logs step f x.2) ∧
        ∀ next, y.1 = .ok next → Sim s s false true x.2 y.2 := by
  intro x y
  have hx : x = _ := runStep_eq_enter false script step f c
  have hy : y = _ := runStep_eq_enter true script step f d
  have hc : Chain.enter false step c = _ := putDefaults_false (c := { c with walked := c.walked ++ [step.id] })
    fun e he => (fits e he).congr h.left.schema
  have hd : Chain.enter true step d = _ := putDefaults_true (c := { d with walked := d.walked ++ [step.id] })
    fun e he => (fits e he).congr h.right.schema
  cases hstep : step.isLoggable with
  | false =>
    -- For good the chain does not even enter the step.
    rw [step.logAll_defaults_error hstep] at hd
    rw [hd] at hy
    rw [hy]
    refine ⟨fun next => iff_of_false (fun hnext => nomatch hnext) ?_, fun next hnext => nomatch hnext⟩
    rintro ⟨-, -, hlogs, -⟩
    rw [hstep] at hlogs
    cases hlogs
  | true =>
    obtain ⟨-, hs⟩ := h.enter step fun e he w hw => by
      obtain rfl : e.2 = w := Except.ok.inj (((fits e he).congr h.left.schema).symm.trans hw)
      rw [logged_true, logged_false, Store.log_of_isLoggable (List.all_eq_true.1 hstep e he)]
    rw [step.logAll_defaults hstep] at hd
    rw [hc, hd] at hs
    rw [hc] at hx
    rw [hd] at hy
    obtain ⟨hiff, hsim⟩ := hs.pass_ok_iff script step f
    rw [hx, hy]
    refine ⟨fun next => (hiff next).trans (and_congr_right fun _ => ?_), hsim⟩
    rw [hc]
    refine and_congr ⟨fun hb b hb' => (Prod.mk.inj hb').2 ▸ hb, fun hb => hb _ rfl⟩ ?_
    exact (and_iff_right hstep).symm

/-- A chain that is past its first step loses what it loses there or later. -/
theorem loses_iff {step next : Step} {f : FunctionCall} {c' : Chain} (hbody : step.body = .call f)
    (hnext : runStep false script step f { c with walked := c.walked ++ [step.id] } = (.ok next, c')) :
    Loses script (step, c) ↔
      (∃ b, Chain.enter false step c = (.ok (), b) ∧ b.Blanks step) ∨ Loses script (next, c') := by
  constructor
  · rintro ⟨y, hy, hcall, hlost⟩
    rcases hy.cases_head with rfl | ⟨z, ⟨g, hg, hz⟩, hy⟩
    · exact .inl hlost
    · obtain rfl : f = g := StepBody.call.inj (hbody.symm.trans hg)
      obtain ⟨hz₁, hz₂⟩ := Prod.mk.inj (hnext.symm.trans hz)
      refine .inr ⟨y, ?_, hcall, hlost⟩
      rw [Except.ok.inj hz₁, hz₂]
      exact hy
  · rintro (hlost | ⟨y, hy, hcall, hlost⟩)
    · exact ⟨(step, c), .refl, by simp [Step.isCall, Step.isSay, hbody], hlost⟩
    · exact ⟨y, .head ⟨f, hbody, hnext⟩ hy, hcall, hlost⟩

/-- A chain that is past its first step has written something there, or writes something later, that cannot be
logged. -/
theorem overlong_iff {step next : Step} {f : FunctionCall} {c' : Chain} (hbody : step.body = .call f)
    (hnext : runStep false script step f { c with walked := c.walked ++ [step.id] } = (.ok next, c')) :
    Overlong script (step, c) ↔ ¬Logs step f c' ∨ Overlong script (next, c') := by
  constructor
  · rintro ⟨y, z, g, hy, hz, hg, hlong⟩
    rcases hy.cases_head with rfl | ⟨b, ⟨g', hg', hb⟩, hy⟩
    · obtain ⟨f', hf', hz⟩ := hz
      obtain rfl : f = f' := StepBody.call.inj (hbody.symm.trans hf')
      obtain rfl : f = g := StepBody.call.inj (hbody.symm.trans hg)
      obtain ⟨-, hz₂⟩ := Prod.mk.inj (hnext.symm.trans hz)
      exact .inl (hz₂ ▸ hlong)
    · obtain rfl : f = g' := StepBody.call.inj (hbody.symm.trans hg')
      obtain ⟨hb₁, hb₂⟩ := Prod.mk.inj (hnext.symm.trans hb)
      refine .inr ⟨y, z, g, ?_, hz, hg, hlong⟩
      rw [Except.ok.inj hb₁, hb₂]
      exact hy
  · rintro (hlong | ⟨y, z, g, hy, hz, hg, hlong⟩)
    · exact ⟨(step, c), (next, c'), f, .refl, ⟨f, hbody, hnext⟩, hbody, hlong⟩
    · exact ⟨y, z, g, .head ⟨f, hbody, hnext⟩ hy, hz, hg, hlong⟩

theorem not_overlong_of_say {step : Step} {text : String} {choices : List Choice}
    (hbody : step.body = .say text choices) : ¬Overlong script (step, c) := by
  rintro ⟨y, z, g, hy, -, hg, -⟩
  rcases hy.cases_head with rfl | ⟨b, ⟨g', hg', -⟩, -⟩
  · rw [hbody] at hg
    cases hg
  · rw [hbody] at hg'
    cases hg'

theorem not_loses_of_say {step : Step} {text : String} {choices : List Choice}
    (hbody : step.body = .say text choices) : ¬Loses script (step, c) := by
  rintro ⟨y, hy, hcall, -⟩
  rcases hy.cases_head with rfl | ⟨z, ⟨g, hg, -⟩, -⟩
  · simp [Step.isCall, Step.isSay, hbody] at hcall
  · rw [hbody] at hg
    cases hg

/-- **A chain reaches for good** what it reaches on trial, unless it loses a required property or comes to a value
that cannot be logged. -/
theorem Sim.run_ok_iff (w : script.WellFormed) (schema : s.store.schema = script.schema) {fuel : Nat} :
    ∀ {done : List Int} {step : Step} {c d : Chain}, script.step? step.id = some step →
    Sim s s false true c d → ∀ goal : Step,
      ((run true script fuel done step d).1 = .ok goal ↔
        (run false script fuel done step c).1 = .ok goal ∧
          ¬Loses script (step, c) ∧ ¬Overlong script (step, c)) := by
  induction fuel with
  | zero =>
    intro done step c d _ h goal
    unfold run
    cases hbody : step.body with
    | say text choices => simp [not_loses_of_say hbody, not_overlong_of_say hbody]
    | call f =>
      dsimp only
      split <;> simp
  | succ fuel ih =>
    intro done step c d hstep h goal
    unfold run
    cases hbody : step.body with
    | say text choices => simp [not_loses_of_say hbody, not_overlong_of_say hbody]
    | call f =>
      dsimp only
      split
      · simp
      obtain ⟨hiff, hsim⟩ := h.runStep_ok_iff script (fun e he => (w.fits hstep e he).congr schema) f
      rcases hc : runStep false script step f { c with walked := c.walked ++ [step.id] } with ⟨rc, c₁⟩
      rcases hd : runStep true script step f { d with walked := d.walked ++ [step.id] } with ⟨rd, d₁⟩
      rw [hc, hd] at hiff hsim
      dsimp only at hiff hsim ⊢
      cases rd with
      | error err =>
        refine iff_of_false (by simp) ?_
        rintro ⟨hgoal, hloses, hlong⟩
        cases rc with
        | error err' => cases hgoal
        | ok next =>
          rw [loses_iff hbody hc, not_or] at hloses
          rw [overlong_iff hbody hc, not_or, not_not] at hlong
          have hnext := (hiff next).2 ⟨rfl, fun b hb hlost => hloses.1 ⟨b, hb, hlost⟩, hlong.1⟩
          cases hnext
      | ok next =>
        obtain ⟨hnext, hkept, hlogs⟩ := (hiff next).1 rfl
        obtain rfl : rc = .ok next := hnext
        have hloses : Loses script (step, c) ↔ Loses script (next, c₁) := by
          rw [loses_iff hbody hc]
          exact or_iff_right (by rintro ⟨b, hb, hlost⟩; exact hkept b hb hlost)
        have hlong : Overlong script (step, c) ↔ Overlong script (next, c₁) := by
          rw [overlong_iff hbody hc]
          exact or_iff_right (not_not.2 hlogs)
        obtain ⟨id, -, hnext⟩ := runStep_ok hc
        obtain rfl := w.keyed hnext
        rw [hloses, hlong]
        exact ih hnext (hsim next rfl) goal

end Chain

namespace Engine

variable {e e' : Engine}

/-- The way that is foretold loses a required property. -/
def Loses (e : Engine) : Prop :=
  ∃ first, e.departure = .ok first ∧ Chain.Loses e.script (first, e.newChain e.current.toList)

/-- A write on the way that is foretold, or at the say step to which it leads, cannot be logged. -/
def Overlong (e : Engine) : Prop :=
  (∃ first, e.departure = .ok first ∧ Chain.Overlong e.script (first, e.newChain e.current.toList)) ∨
    ∃ goal, (e.travel false).1 = .ok goal ∧ goal.isLoggable = false

/-- **A move lands at a step** exactly if the step is foretold, nothing that is required is lost on the way, and all
that is written can be logged. -/
theorem landing_ok_iff (r : e.Ready) (goal : Step) :
    landing (e.travel true).1 = .ok goal ↔ (e.travel false).1 = .ok goal ∧ ¬e.Loses ∧ ¬e.Overlong := by
  rw [landing_eq_ok_iff]
  have hgoal : (e.travel false).1 = .ok goal →
      ((∃ goal, (e.travel false).1 = .ok goal ∧ goal.isLoggable = false) ↔ goal.isLoggable = false) := fun hgoal =>
    ⟨fun ⟨t, ht, hlog⟩ => Except.ok.inj (hgoal.symm.trans ht) ▸ hlog, fun hlog => ⟨goal, hgoal, hlog⟩⟩
  have hway : (e.travel true).1 = .ok goal ↔ (e.travel false).1 = .ok goal ∧ ¬e.Loses ∧
      ¬∃ first, e.departure = .ok first ∧ Chain.Overlong e.script (first, e.newChain e.current.toList) := by
    unfold travel Loses
    cases hd : e.departure with
    | error halt => simp
    | ok first =>
      obtain ⟨id, hfirst, -⟩ := departure_ok hd
      obtain rfl := r.wellFormed.keyed hfirst
      have hsim : Chain.Sim (e.newChain e.current.toList) (e.newChain e.current.toList) false true
          (e.newChain e.current.toList) (e.newChain e.current.toList) := newChain_sim _ (.refl _) rfl
      dsimp only
      rw [hsim.run_ok_iff r.wellFormed r.schema hfirst goal]
      simp
  rw [hway, Overlong, not_or]
  constructor
  · rintro ⟨⟨hfound, hloses, hlong⟩, hlog⟩
    exact ⟨hfound, hloses, hlong, fun h => by rw [(hgoal hfound).1 h] at hlog; cases hlog⟩
  · rintro ⟨hfound, hloses, hlong, hlog⟩
    exact ⟨⟨hfound, hloses, hlong⟩, by simpa using fun h => hlog ((hgoal hfound).2 h)⟩

theorem outcome_peek : peek.outcome e = .ok e.foreseen := by
  rw [Act.outcome, peek_eq]

theorem outcome_advance (r : e.Ready) (q : e.Quiet) :
    advance.outcome e = (verdict (landing (e.travel true).1)).map Step.id := by
  rw [Act.outcome_congr (advance_eq r), outcome_report,
    ((moved_keeps r true).1.quiet q).firstObjection]

/-- **Going on reaches a step** exactly if the step was foretold, nothing that is required is lost on the way, and
all that is written can be logged. -/
theorem advance_ok_iff (r : e.Ready) (q : e.Quiet) (t : Int) :
    advance.outcome e = .ok t ↔ peek.outcome e = .ok (some t) ∧ ¬e.Loses ∧ ¬e.Overlong := by
  have hok : (verdict (landing (e.travel true).1)).map Step.id = .ok t ↔
      ∃ goal, landing (e.travel true).1 = .ok goal ∧ goal.id = t := by
    cases hv : verdict (landing (e.travel true).1) with
    | error err =>
      refine iff_of_false (by simp [Except.map]) ?_
      rintro ⟨goal, hgoal, -⟩
      rw [verdict_eq_ok_iff.2 hgoal] at hv
      cases hv
    | ok goal =>
      rw [verdict_eq_ok_iff] at hv
      simp [hv, Except.map]
  have hpeek : peek.outcome e = .ok (some t) ↔ ∃ goal, (e.travel false).1 = .ok goal ∧ goal.id = t := by
    rw [outcome_peek, foreseen]
    cases (e.travel false).1 <;> simp [Except.toOption]
  rw [outcome_advance r q, hok, hpeek]
  simp only [landing_ok_iff r]
  constructor
  · rintro ⟨goal, ⟨hgoal, hkept⟩, ht⟩
    exact ⟨⟨goal, hgoal, ht⟩, hkept⟩
  · rintro ⟨⟨goal, hgoal, ht⟩, hkept⟩
    exact ⟨goal, ⟨hgoal, hkept⟩, ht⟩

/-- Looking ahead does not change where going on leads. -/
theorem outcome_advance_peeked (r : e.Ready) (q : e.Quiet) (pure : e.registry.Pure) :
    advance.outcome (peek.after e) = advance.outcome e := by
  have hk : e.Keeps e.peeked := peeked_stays.toKeeps
  have halike : e.Alike e.peeked := ⟨hk.script, rfl, rfl, rfl, hk.functions, fun _ => rfl⟩
  rw [Act.after_ok peek_eq, outcome_advance (hk.ready r r.typed) (hk.quiet q), outcome_advance r q,
    halike.travel_eq pure fun _ _ => rfl]

/-- **What looking ahead is worth.** Where functions depend on their arguments only, a step that `advance`
reaches was always foretold. What is foretold comes true as well (both ways: the step, and that there is
none), except where a step is foretold and the chain to it loses a required property, or a value that is written
on the way or at the step itself cannot be logged: there, and only there, `advance` fails although a step was
foretold. -/
theorem lookAhead_agrees_iff {e₀ : Engine} (fresh : e₀.Fresh) (quiet : e₀.Quiet)
    (pure : e₀.registry.Pure) (ops : List Operation) :
    let e := e₀.run ops
    (∀ t, advance.outcome e = .ok t → peek.outcome e = .ok (some t)) ∧
      advance.outcome (peek.after e) = advance.outcome e ∧
      (((∀ t, peek.outcome e = .ok (some t) ↔ advance.outcome e = .ok t) ∧
          (peek.outcome e = .ok none ↔ ∃ err, advance.outcome e = .error err)) ↔
        ¬((∃ t, peek.outcome e = .ok (some t)) ∧ (e.Loses ∨ e.Overlong))) := by
  intro e
  obtain ⟨hk, hr⟩ := run_keeps fresh.ready ops
  have hq : e.Quiet := hk.quiet quiet
  have hp : e.registry.Pure := pure.congr hk.functions
  have hiff := advance_ok_iff hr hq
  refine ⟨fun t ht => ((hiff t).1 ht).1, outcome_advance_peeked hr hq hp, ?_, fun hkept => ?_⟩
  · rintro ⟨hagree, -⟩ ⟨⟨t, ht⟩, hfails⟩
    exact hfails.elim ((hiff t).1 ((hagree t).1 ht)).2.1 ((hiff t).1 ((hagree t).1 ht)).2.2
  · have hagree : ∀ t, peek.outcome e = .ok (some t) ↔ advance.outcome e = .ok t := fun t =>
      ⟨fun ht => (hiff t).2 ⟨ht, fun h => hkept ⟨⟨t, ht⟩, .inl h⟩, fun h => hkept ⟨⟨t, ht⟩, .inr h⟩⟩,
        fun ht => ((hiff t).1 ht).1⟩
    refine ⟨hagree, fun hnone => ?_, ?_⟩
    · cases ha : advance.outcome e with
      | error err => exact ⟨err, rfl⟩
      | ok t =>
        have ht := (hagree t).2 ha
        rw [hnone] at ht
        cases ht
    · rintro ⟨err, herr⟩
      have hpeek := outcome_peek (e := e)
      cases hf : e.foreseen with
      | none => rw [hpeek, hf]
      | some t =>
        have ht := (hagree t).1 (by rw [hpeek, hf])
        rw [herr] at ht
        cases ht

theorem echoes_pure : echoes.Pure := by
  intro key name f h _ _ _
  have hmem := OrderedMap.get?_eq_some_iff.1 h
  simp only [echoes, OrderedMap.ofList, OrderedMap.insertAll, OrderedMap.insert, OrderedMap.empty,
    OrderedMap.put, List.foldl_cons, List.foldl_nil, List.mem_singleton] at hmem
  cases hmem
  rfl

/-- On the first step of a relay all that is foretold comes true. -/
theorem relay_foretold :
    let e := (ofScript relay echoes).run [.start, .setValue 1 (.text "x")]
    peek.outcome e = .ok (some 3) ∧ advance.outcome e = .ok 3 ∧ ¬e.Loses ∧ ¬e.Overlong := by
  intro e
  obtain ⟨hforetold, -, hiff⟩ := lookAhead_agrees_iff relay_fresh (ofScript_quiet relay echoes)
    echoes_pure [.start, .setValue 1 (.text "x")]
  have hadvance : advance.outcome e = .ok 3 := Act.outcome_of_toOption (by decide +kernel)
  have hpeek := hforetold 3 hadvance
  have hagrees := hiff.1 ⟨fun t => by rw [hpeek, hadvance]; simp, by rw [hpeek, hadvance]; simp⟩
  exact ⟨hpeek, hadvance, fun h => hagrees ⟨⟨3, hpeek⟩, .inl h⟩, fun h => hagrees ⟨⟨3, hpeek⟩, .inr h⟩⟩

/-- A call step that blanks the note it requires. -/
def forgetful : Script :=
  let up := blankSheet.withSay "Up" {
    id := .int 1
    first := true
    defaults := .ofList [(1, .text "x")]
    rules := [(none, .int 2)] }
  let call := up.withCall { name := "echo", result := some 1 } {
    id := .int 2
    defaults := .ofList [(1, .unset)]
    required := [1]
    rules := [(none, .int 3)] }
  call.withSay "Down" { id := .int 3 }

theorem forgetful_fresh : (ofScript forgetful echoes).Fresh :=
  ofScript_fresh (((blankSheet_built.withSay _ _).withCall _ _).withSay _ _) echoes

/-- **A step is foretold that is not reached**: not every step that is foretold is reached. -/
theorem forgetful_not_reached :
    (ofScript forgetful echoes).Fresh ∧ (ofScript forgetful echoes).Quiet ∧ echoes.Pure ∧
      let e := (ofScript forgetful echoes).run [.start]
      peek.outcome e = .ok (some 3) ∧ ¬∃ t, advance.outcome e = .ok t := by
  refine ⟨forgetful_fresh, ofScript_quiet forgetful echoes, echoes_pure, ?_⟩
  intro e
  have hpeek : e.foreseen = some 3 := by decide +kernel
  have hadvance : (advance.outcome e).toOption = none := by decide +kernel
  refine ⟨by rw [outcome_peek, hpeek], ?_⟩
  rintro ⟨t, ht⟩
  rw [ht] at hadvance
  cases hadvance

end Engine
end Walkthrough
