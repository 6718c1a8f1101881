/-
# What building guarantees

The scripts that can be run are those that were built (`Script.Built`): an empty script over a schema,
with steps and choices added and closed to changes at last. Every such script is well formed: a step is
found under its own number, and its default values have the form of their properties, so that writing
them never fails.
-/

import Walkthrough.Proofs.Property.Typed
import Walkthrough.Script.Build

namespace Walkthrough

/-- Whether all default values of a step can be logged. -/
def Step.isLoggable (t : Step) : Bool := Store.areLoggable t.defaults.entries

theorem Step.logAll_defaults {t : Step} (h : t.isLoggable = true) : Store.logAll t.defaults.entries = .ok () :=
  Store.logAll_of_areLoggable h

theorem Step.logAll_defaults_error {t : Step} (h : t.isLoggable = false) :
    Store.logAll t.defaults.entries = .error .tooManyDigits := Store.logAll_of_not_areLoggable h

/-- A step whose default values can be logged has all of them written. -/
theorem Step.made_defaults {t : Step} (h : t.isLoggable = true) :
    Store.made t.defaults.entries = t.defaults.entries := Store.made_of_logAll (t.logAll_defaults h)

namespace Script

/-- The scripts that are made by building. -/
inductive Built : Script → Prop where
  | ofProperties {ps : List Property} {s : Script} (h : Script.ofProperties ps = .ok s) : Built s
  | addSay {s t : Script} {text : String} {d : StepDraft} {x : Step} (b : Built s)
      (h : s.addSay text d = .ok (t, x)) : Built t
  | addCall {s t : Script} {c : CallDraft} {d : StepDraft} {x : Step} (b : Built s)
      (h : s.addCall c d = .ok (t, x)) : Built t
  | addStep {s t : Script} {text : String} {c : CallDraft} {d : StepDraft} {x : Step} (b : Built s)
      (h : s.addStep text c d = .ok (t, x)) : Built t
  | addChoice {s t : Script} {step : Value} {d : ChoiceDraft} {x : Choice} (b : Built s)
      (h : s.addChoice step d = .ok (t, x)) : Built t
  | freeze {s : Script} (b : Built s) : Built s.freeze

/-- A value has the form of a property of the script. -/
def Fits (s : Script) (id : Int) (v : Value) : Prop := (Store.empty s.schema).Fits id v

/-- What holds of every script that was built. -/
structure WellFormed (s : Script) : Prop where
  /-- A step is found under its own number. -/
  keyed : ∀ {id : Int} {t : Step}, s.step? id = some t → t.id = id
  /-- The number of a step can be written. -/
  short : ∀ {id : Int} {t : Step}, s.step? id = some t → Value.isShort t.id = true
  /-- The default values of a step have the form of their properties. -/
  fits : ∀ {id : Int} {t : Step}, s.step? id = some t → ∀ e ∈ t.defaults.entries, s.Fits e.1 e.2

theorem mem_stepList {s : Script} {t : Step} : t ∈ s.stepList ↔ ∃ id, s.step? id = some t := by
  rw [stepList, OrderedMap.values, List.mem_map]
  constructor
  · rintro ⟨e, he, rfl⟩
    exact ⟨e.1, OrderedMap.get?_eq_some_iff.2 he⟩
  · rintro ⟨id, hid⟩
    exact ⟨(id, t), OrderedMap.get?_eq_some_iff.1 hid, rfl⟩

/-! ## Checked values -/

theorem fits_of_checkedValue {s : Script} {place : Place} {id : Int} {v w : Value}
    (h : s.checkedValue place id v = .ok w) : s.Fits id w := by
  unfold checkedValue at h
  cases hp : s.schema.get? id with
  | none => rw [hp] at h; cases h
  | some p =>
    have hc : (Store.empty s.schema).convert id v = p.type.convert v := by
      simp only [Store.convert, Store.property, Store.empty, hp]
      rfl
    rw [hp] at h
    dsimp only at h
    split at h
    · next hw =>
      cases h
      exact Store.fits_of_convert (hc.trans hw)
    · cases h
    · cases h

theorem fits_of_checkedEntries {s : Script} {place : Place} {es fs : List (Int × Value)}
    (h : s.checkedEntries place es = .ok fs) : ∀ e ∈ fs, s.Fits e.1 e.2 := by
  induction es generalizing fs with
  | nil => cases h; simp
  | cons e rest ih =>
    obtain ⟨id, v⟩ := e
    unfold checkedEntries at h
    cases hv : s.checkedValue place id v with
    | error err => rw [hv] at h; cases h
    | ok w =>
      cases hr : s.checkedEntries place rest with
      | error err => rw [hv, hr] at h; cases h
      | ok gs =>
        rw [hv, hr] at h
        cases h
        exact List.forall_mem_cons.2 ⟨fits_of_checkedValue hv, ih hr⟩

theorem fits_of_checkedValues {s : Script} {place : Place} {values out : OrderedMap Int Value}
    (h : s.checkedValues place values = .ok out) : ∀ e ∈ out.entries, s.Fits e.1 e.2 := by
  unfold checkedValues at h
  cases he : s.checkedEntries place values.entries with
  | error err => rw [he] at h; cases h
  | ok es =>
    rw [he] at h
    cases h
    exact fun e hm => fits_of_checkedEntries he e (OrderedMap.mem_of_mem_ofList hm)

/-! ## Additions -/

theorem positive?_pos {v : Value} {n : Int} (h : positive? v = some n) : 0 < n := by
  unfold positive? at h
  split at h
  · split at h
    · next hpos =>
      cases h
      exact hpos
    · cases h
  · cases h

theorem isWritable_of_named {place : Place} {u : Unit} (h : named place = .ok u) : place.isWritable = true := by
  unfold named at h
  split at h
  · assumption
  · cases h

theorem positive?_eq_some {v : Value} {n : Int} (h : positive? v = some n) : v = .int n := by
  unfold positive? at h
  split at h
  · split at h <;> cases h
    rfl
  · cases h

/-- What was found when a step was added, and the script with it. -/
structure AddsBody (s : Script) (body : StepBody) (d : StepDraft) (t : Script) (x : Step) : Prop where
  opened : s.frozen = false
  id : positive? d.id = some x.id
  unused : s.hasStep x.id = false
  one_first : d.first = true → s.first = none
  short : Value.isShort x.id = true
  body : x.body = body
  isFirst : x.isFirst = d.first
  defaults : s.checkedValues (.step x.id) d.defaults = .ok x.defaults
  required : s.checkedIds (.step x.id) d.required = .ok x.required
  rules : s.checkedRules x.id d.rules = .ok x.rules
  script : t = { s with
    steps := s.steps.insert x.id x
    first := if x.isFirst then some x.id else s.first }

theorem addBody_adds {s t : Script} {body : StepBody} {d : StepDraft} {x : Step}
    (h : s.addBody body d = .ok (t, x)) : AddsBody s body d t x := by
  unfold addBody at h
  split at h
  · cases h
  next opened =>
  split at h
  · cases h
  next id hid =>
    split at h
    · cases h
    next unused =>
    split at h
    · cases h
    next hfirst =>
    obtain ⟨u, hnamed, h⟩ := bind_eq_ok h
    obtain ⟨defaults, hdefaults, h⟩ := bind_eq_ok h
    obtain ⟨required, hrequired, h⟩ := bind_eq_ok h
    obtain ⟨rules, hrules, h⟩ := bind_eq_ok h
    cases h
    exact
      { opened := Bool.eq_false_iff.2 opened
        id := hid
        unused := Bool.eq_false_iff.2 unused
        one_first := fun marked => (if_pos marked).symm.trans hfirst
        short := by simpa only [Place.isWritable] using isWritable_of_named hnamed
        body := rfl, isFirst := rfl, defaults := hdefaults, required := hrequired, rules := hrules
        script := rfl }

/-- **What adding a step does**: it is put under its own positive number, with values that fit. -/
theorem addBody_cases {s t : Script} {body : StepBody} {d : StepDraft} {x : Step}
    (h : s.addBody body d = .ok (t, x)) :
    0 < x.id ∧ Value.isShort x.id = true ∧ x.body = body ∧ (∀ e ∈ x.defaults.entries, s.Fits e.1 e.2) ∧
      t.schema = s.schema ∧ t.steps = s.steps.insert x.id x := by
  have a := addBody_adds h
  exact ⟨positive?_pos a.id, a.short, a.body, fits_of_checkedValues a.defaults, a.script ▸ rfl, a.script ▸ rfl⟩

theorem addSay_eq_addBody {s : Script} {text : String} {d : StepDraft} {r : Script × Step}
    (h : s.addSay text d = .ok r) : s.addBody (.say text []) d = .ok r := by
  unfold addSay at h
  split at h
  · cases h
  · exact h

theorem addCall_eq_addBody {s : Script} {c : CallDraft} {d : StepDraft} {r : Script × Step}
    (h : s.addCall c d = .ok r) : ∃ f, s.addBody (.call f) d = .ok r := by
  unfold addCall at h
  split at h
  · cases h
  split at h
  · cases h
  split at h
  · cases h
  · exact ⟨_, h⟩

/-- A step that shows a text or calls a function is added as the one or the other. -/
theorem addStep_cases {s : Script} {text : String} {c : CallDraft} {d : StepDraft} {r : Script × Step}
    (h : s.addStep text c d = .ok r) : s.addSay text d = .ok r ∨ s.addCall c d = .ok r := by
  unfold addStep at h
  split at h
  · cases h
  split at h
  · exact .inr h
  split at h
  · cases h
  · exact .inl h

theorem addStep_eq_addBody {s : Script} {text : String} {c : CallDraft} {d : StepDraft}
    {r : Script × Step} (h : s.addStep text c d = .ok r) : ∃ body, s.addBody body d = .ok r := by
  rcases addStep_cases h with h | h
  · exact ⟨_, addSay_eq_addBody h⟩
  · obtain ⟨f, hf⟩ := addCall_eq_addBody h
    exact ⟨_, hf⟩

theorem exists_step?_of_lookUp {s : Script} {step : Value} {x : Step} (h : s.lookUp step = .ok (some x)) :
    ∃ id, s.step? id = some x := by
  unfold lookUp at h
  split at h
  · obtain ⟨id, -, hid⟩ := Option.bind_eq_some_iff.1 (Except.ok.inj h)
    exact ⟨id, hid⟩
  · cases h

/-- What was found when a choice was added to a step, and the script with it. -/
structure AddsChoice (s : Script) (step : Value) (d : ChoiceDraft) (t : Script) (c : Choice) (x : Step) :
    Prop where
  opened : s.frozen = false
  found : s.lookUp step = .ok (some x)
  say : x.isSay = true
  id : positive? d.id = some c.id
  unused : x.choice? c.id = none
  text : Text.isBlank d.text = false ∧ c.text = d.text
  filled : d.values.isEmpty = false
  short : Value.isShort c.id = true
  values : s.checkedValues (.choice step d.id) d.values = .ok c.values
  required : s.checkedIds (.choice step d.id) d.required = .ok c.required
  script : t = { s with steps := s.steps.insert x.id (withChoice x c) }

theorem addChoice_adds {s t : Script} {step : Value} {d : ChoiceDraft} {c : Choice}
    (h : s.addChoice step d = .ok (t, c)) : ∃ x, AddsChoice s step d t c x := by
  unfold addChoice at h
  split at h
  · cases h
  next opened =>
  cases found : s.lookUp step with
  | error err => rw [found] at h; cases h
  | ok x? =>
    cases x? with
    | none => rw [found] at h; cases h
    | some x =>
      rw [found] at h
      simp only [bind, Except.bind] at h
      split at h
      · cases h
      next say =>
      split at h
      · cases h
      next id hid =>
      split at h
      · cases h
      next unused =>
      split at h
      · cases h
      next text =>
      split at h
      · cases h
      next filled =>
      obtain ⟨u, hnamed, h⟩ := bind_eq_ok h
      obtain ⟨values, hvalues, h⟩ := bind_eq_ok h
      obtain ⟨required, hrequired, h⟩ := bind_eq_ok h
      cases h
      exact ⟨x,
        { opened := Bool.eq_false_iff.2 opened
          found := found
          say := by simpa using say
          id := hid
          unused := by simpa using unused
          text := ⟨Bool.eq_false_iff.2 text, rfl⟩
          filled := Bool.eq_false_iff.2 filled
          short := by
            have hwritable := (Bool.and_eq_true_iff.1 (isWritable_of_named hnamed)).2
            rwa [positive?_eq_some hid] at hwritable
          values := hvalues, required := hrequired, script := rfl }⟩

/-- **What adding a choice does**: a step is replaced by one that differs in its choices only. -/
theorem addChoice_cases {s t : Script} {step : Value} {d : ChoiceDraft} {x : Choice}
    (h : s.addChoice step d = .ok (t, x)) :
    ∃ id old, s.step? id = some old ∧ 0 < x.id ∧ t.schema = s.schema ∧
      t.steps = s.steps.insert old.id (withChoice old x) := by
  obtain ⟨old, a⟩ := addChoice_adds h
  obtain ⟨id, hid⟩ := exists_step?_of_lookUp a.found
  exact ⟨id, old, hid, positive?_pos a.id, a.script ▸ rfl, a.script ▸ rfl⟩

@[simp] theorem id_withChoice (t : Step) (c : Choice) : (withChoice t c).id = t.id := by
  unfold withChoice
  split <;> rfl

@[simp] theorem defaults_withChoice (t : Step) (c : Choice) :
    (withChoice t c).defaults = t.defaults := by
  unfold withChoice
  split <;> rfl

@[simp] theorem isFirst_withChoice (t : Step) (c : Choice) : (withChoice t c).isFirst = t.isFirst := by
  unfold withChoice
  split <;> rfl

/-- What is found after a step was put under its own number: that step, or what was found before. -/
theorem step?_of_insert {s t : Script} {x u : Step} {id : Int} (hsteps : t.steps = s.steps.insert x.id x)
    (hu : t.step? id = some u) : id = x.id ∧ u = x ∨ s.step? id = some u := by
  rw [step?, hsteps, OrderedMap.get?_insert] at hu
  split at hu
  · next he => exact .inl ⟨he, (Option.some.inj hu).symm⟩
  · exact .inr hu

/-- Putting a step that fits under its own number. -/
theorem WellFormed.insert {s t : Script} (w : s.WellFormed) {x : Step} (hshort : Value.isShort x.id = true)
    (hx : ∀ e ∈ x.defaults.entries, s.Fits e.1 e.2) (hschema : t.schema = s.schema)
    (hsteps : t.steps = s.steps.insert x.id x) : t.WellFormed := by
  constructor
  · intro id u hu
    rcases step?_of_insert hsteps hu with ⟨rfl, rfl⟩ | hu
    · rfl
    · exact w.keyed hu
  · intro id u hu
    rcases step?_of_insert hsteps hu with ⟨-, rfl⟩ | hu
    · exact hshort
    · exact w.short hu
  · intro id u hu
    unfold Fits
    rw [hschema]
    rcases step?_of_insert hsteps hu with ⟨-, rfl⟩ | hu
    · exact hx
    · exact w.fits hu

/-- Closing a script to changes does not matter. -/
theorem WellFormed.of_freeze_eq {s t : Script} (w : s.WellFormed) (h : t.freeze = s.freeze) :
    t.WellFormed := by
  have hstep : t.freeze.step? = s.freeze.step? := congrArg step? h
  have hfits : t.freeze.Fits = s.freeze.Fits := congrArg Fits h
  constructor
  · intro id u hu
    exact w.keyed ((congrFun hstep id).symm.trans hu)
  · intro id u hu
    exact w.short ((congrFun hstep id).symm.trans hu)
  · intro id u hu x hx
    have hx := w.fits ((congrFun hstep id).symm.trans hu) x hx
    exact (congrFun (congrFun hfits x.1) x.2).mpr hx

theorem ofProperties_ok {ps : List Property} {s : Script} (h : ofProperties ps = .ok s) :
    ∃ schema, s = ⟨schema, .empty, none, false⟩ := by
  unfold ofProperties at h
  split at h
  · cases h
  · split at h
    · cases h
    · cases h
      exact ⟨_, rfl⟩

theorem steps_of_ofProperties {ps : List Property} {s : Script} (h : ofProperties ps = .ok s) :
    s.steps = .empty := by
  obtain ⟨schema, rfl⟩ := ofProperties_ok h
  rfl

theorem first_of_ofProperties {ps : List Property} {s : Script} (h : ofProperties ps = .ok s) :
    s.first = none := by
  obtain ⟨schema, rfl⟩ := ofProperties_ok h
  rfl

/-- **Scripts that were built are well formed.** -/
theorem Built.wellFormed {s : Script} (b : s.Built) : s.WellFormed := by
  induction b with
  | @ofProperties ps s h =>
    constructor <;>
    · intro id t ht
      rw [step?, steps_of_ofProperties h] at ht
      cases ht
  | addSay b h ih =>
    obtain ⟨-, hshort, -, hx, hschema, hsteps⟩ := addBody_cases (addSay_eq_addBody h)
    exact ih.insert hshort hx hschema hsteps
  | addCall b h ih =>
    obtain ⟨f, hf⟩ := addCall_eq_addBody h
    obtain ⟨-, hshort, -, hx, hschema, hsteps⟩ := addBody_cases hf
    exact ih.insert hshort hx hschema hsteps
  | addStep b h ih =>
    obtain ⟨body, hb⟩ := addStep_eq_addBody h
    obtain ⟨-, hshort, -, hx, hschema, hsteps⟩ := addBody_cases hb
    exact ih.insert hshort hx hschema hsteps
  | @addChoice s t step d x b h ih =>
    obtain ⟨id, old, hold, -, hschema, hsteps⟩ := addChoice_cases h
    refine ih.insert (x := withChoice old x) ?_ ?_ hschema ?_
    · rw [id_withChoice]
      exact ih.short hold
    · rw [defaults_withChoice]
      exact ih.fits hold
    · rw [id_withChoice]
      exact hsteps
  | freeze b ih => exact ⟨ih.keyed, ih.short, ih.fits⟩

/-- The script after an addition; one that is refused leaves it as it is. -/
def added {α : Type} (s : Script) : Except Error (Script × α) → Script
  | .ok (t, _) => t
  | .error _ => s

theorem Built.added {α : Type} {s : Script} {r : Except Error (Script × α)} (b : s.Built)
    (h : ∀ t x, r = .ok (t, x) → t.Built) : (s.added r).Built := by
  cases r with
  | ok r => exact h r.1 r.2 rfl
  | error err => exact b

/-- Adds a step that shows a text, if that can be done. -/
def withSay (s : Script) (text : String) (d : StepDraft) : Script := s.added (s.addSay text d)

/-- Adds a step that calls a function, if that can be done. -/
def withCall (s : Script) (c : CallDraft) (d : StepDraft) : Script := s.added (s.addCall c d)

theorem Built.withSay {s : Script} (b : s.Built) (text : String) (d : StepDraft) :
    (s.withSay text d).Built := b.added fun _ _ h => b.addSay h

theorem Built.withCall {s : Script} (b : s.Built) (c : CallDraft) (d : StepDraft) :
    (s.withCall c d).Built := b.added fun _ _ h => b.addCall h

end Script
end Walkthrough
