/-
# Sound scripts

Every addition is checked as a whole, so what holds of the steps of a script can be said once for all ways
to build it (`Sound`). A step is either the one that was added under a new number, or one that was there
before; a choice replaces its step by one that differs in its choices only. In both cases one step is put
under its own number (`Sound.insert`), and the script keeps its first step or gets one where it had none.

| part | what is checked |
| --- | --- |
| step | a positive number of its own |
| text of a say step, name of a function | not blank |
| choice | a positive number of its own at its step, a text, at least one value |
| rule | a positive target |
| value | the type of its property |
| number of a property | in the schema |
-/

import Walkthrough.Proofs.Script.Built
import Walkthrough.Proofs.Text.Trimming

namespace Walkthrough

/-- A value that a script can give to a property: unset, or of the type of the property. -/
def Schema.Admits (s : Schema) (id : Int) (v : Value) : Prop := ∃ p, s.get? id = some p ∧ p.type.Holds v

/-- A choice as it is kept by a script. -/
structure Choice.Sound (schema : Schema) (c : Choice) : Prop where
  id : 0 < c.id
  text : Text.isBlank c.text = false
  filled : c.values.isEmpty = false
  values : ∀ e ∈ c.values.entries, schema.Admits e.1 e.2
  required : ∀ id ∈ c.required, schema.contains id = true

/-- What happens at a step, as it is kept by a script. Only a say step has a text and choices, and only a
call step has a function. -/
inductive StepBody.Sound (schema : Schema) : StepBody → Prop where
  | say {text : String} {choices : List Choice} (filled : Text.isBlank text = false)
      (distinct : (choices.map Choice.id).Nodup) (sound : ∀ c ∈ choices, c.Sound schema) :
      StepBody.Sound schema (.say text choices)
  | call {c : FunctionCall} (named : Text.isBlank c.name = false) (result : schema.contains c.result = true)
      (arguments : ∀ e ∈ c.properties.entries, schema.contains e.2 = true) : StepBody.Sound schema (.call c)

/-- A rule as it is kept by a script. -/
structure Rule.Sound (schema : Schema) (r : Rule) : Prop where
  target : 0 < r.target
  header : ∀ p, r.predicate = some p → ∀ id ∈ p.propertyIds, schema.contains id = true

/-- A step as it is kept by a script. -/
structure Step.Sound (schema : Schema) (x : Step) : Prop where
  id : 0 < x.id
  body : x.body.Sound schema
  defaults : ∀ e ∈ x.defaults.entries, schema.Admits e.1 e.2
  required : ∀ id ∈ x.required, schema.contains id = true
  rules : ∀ r ∈ x.rules, r.Sound schema

namespace Script

variable {s t : Script} {x : Step} {id : Int}

/-- Steps that are sound, each found under its own number. One of them is the first step, or none is. -/
structure Sound (s : Script) : Prop where
  keyed : ∀ {id x}, s.step? id = some x → x.id = id
  step : ∀ {id x}, s.step? id = some x → x.Sound s.schema
  marked : ∀ {id x}, s.step? id = some x → (x.isFirst = true ↔ s.first = some id)
  first : ∀ {id}, s.first = some id → s.hasStep id = true

theorem Sound.step?_of_mem (h : s.Sound) (hx : x ∈ s.stepList) : s.step? x.id = some x := by
  obtain ⟨id, hid⟩ := mem_stepList.1 hx
  rwa [h.keyed hid]

theorem Sound.of_mem (h : s.Sound) (hx : x ∈ s.stepList) : x.Sound s.schema :=
  h.step (h.step?_of_mem hx)

/-- No two steps have one number. -/
theorem Sound.nodup_ids (h : s.Sound) : (s.stepList.map Step.id).Nodup := by
  have hkeys : s.stepList.map Step.id = s.steps.keys := by
    rw [stepList, OrderedMap.values, List.map_map, OrderedMap.keys]
    exact List.map_congr_left fun e he => h.keyed (OrderedMap.get?_eq_some_iff.2 he)
  exact hkeys ▸ s.steps.nodup

/-- A script has a first step if one of its steps is first. -/
theorem Sound.first_eq_none_iff (h : s.Sound) : s.first = none ↔ ∀ x ∈ s.stepList, x.isFirst = false := by
  constructor
  · intro hnone x hx
    rw [Bool.eq_false_iff, ne_eq, h.marked (h.step?_of_mem hx), hnone]
    exact Option.some_ne_none _ ∘ Eq.symm
  · intro hall
    cases hfirst : s.first with
    | none => rfl
    | some id =>
      obtain ⟨x, hx⟩ := OrderedMap.contains_iff.1 (h.first hfirst)
      have hmarked := (h.marked hx).2 hfirst
      rw [hall x (mem_stepList.2 ⟨id, hx⟩)] at hmarked
      cases hmarked

/-- The first step is the only one that is first. -/
theorem Sound.only_first (h : s.Sound) (hfirst : s.first = some id) :
    ∃ x ∈ s.stepList, x.id = id ∧ ∀ y ∈ s.stepList, y.isFirst = true ↔ y = x := by
  obtain ⟨x, hx⟩ := OrderedMap.contains_iff.1 (h.first hfirst)
  refine ⟨x, mem_stepList.2 ⟨id, hx⟩, h.keyed hx, fun y hy => ?_⟩
  rw [h.marked (h.step?_of_mem hy), hfirst, Option.some.injEq]
  constructor
  · rintro rfl
    exact Option.some.inj ((h.step?_of_mem hy).symm.trans hx)
  · rintro rfl
    exact (h.keyed hx).symm

/-- A choice that is found is a choice as it is kept by a script. -/
theorem Sound.of_choice? (h : s.Sound) {step choice : Int} {c : Choice} (hc : s.choice? step choice = some c) :
    c.Sound s.schema := by
  obtain ⟨x, hx, hmem⟩ := Option.bind_eq_some_iff.1 hc
  have hmem : c ∈ x.choices := List.mem_of_find?_eq_some hmem
  have hbody := (h.step hx).body
  unfold Step.choices at hmem
  cases hb : x.body with
  | call f =>
    rw [hb] at hmem
    cases hmem
  | say text choices =>
    rw [hb] at hmem hbody
    cases hbody with
    | say filled distinct hchoices => exact hchoices c hmem

/-- Closing a script to changes does not matter. -/
theorem Sound.of_freeze_eq (h : s.Sound) (heq : t.freeze = s.freeze) : t.Sound := by
  have hstep : t.step? = s.step? := show t.freeze.step? = s.freeze.step? from congrArg _ heq
  have hschema : t.schema = s.schema := show t.freeze.schema = s.freeze.schema from congrArg _ heq
  have hfirst : t.first = s.first := show t.freeze.first = s.freeze.first from congrArg _ heq
  have hhas : t.hasStep = s.hasStep := show t.freeze.hasStep = s.freeze.hasStep from congrArg _ heq
  refine ⟨fun hx => ?_, fun hx => ?_, fun hx => ?_, fun hid => ?_⟩
  · exact h.keyed (hstep ▸ hx)
  · exact hschema ▸ h.step (hstep ▸ hx)
  · exact hfirst ▸ h.marked (hstep ▸ hx)
  · exact hhas ▸ h.first (hfirst ▸ hid)

/-! ## What is checked -/

theorem Fits.admits {v : Value} (h : s.Fits id v) : s.schema.Admits id v := by
  obtain ⟨p, hp, hconvert⟩ := Store.property_of_convert h
  exact ⟨p, hp, PropertyType.holds_of_convert hconvert⟩

theorem admits_of_checkedValues {place : Place} {values out : OrderedMap Int Value}
    (h : s.checkedValues place values = .ok out) : ∀ e ∈ out.entries, s.schema.Admits e.1 e.2 :=
  fun e he => (fits_of_checkedValues h e he).admits

theorem keys_of_checkedEntries {place : Place} {es fs : List (Int × Value)}
    (h : s.checkedEntries place es = .ok fs) : fs.map Prod.fst = es.map Prod.fst := by
  induction es generalizing fs with
  | nil =>
    cases h
    rfl
  | cons e rest ih =>
    obtain ⟨id, v⟩ := e
    unfold checkedEntries at h
    cases hv : s.checkedValue place id v with
    | error err => rw [hv] at h; cases h
    | ok w =>
      cases hr : s.checkedEntries place rest with
      | error err => rw [hv, hr] at h; cases h
      | ok gs =>
        rw [hv, hr] at h
        cases h
        exact congrArg (List.cons id) (ih hr)

/-- Values that were checked are values of the same properties. -/
theorem keys_of_checkedValues {place : Place} {values out : OrderedMap Int Value}
    (h : s.checkedValues place values = .ok out) : out.keys = values.keys := by
  unfold checkedValues at h
  cases he : s.checkedEntries place values.entries with
  | error err => rw [he] at h; cases h
  | ok es =>
    rw [he] at h
    cases h
    have hkeys := keys_of_checkedEntries he
    have hentries : (OrderedMap.ofList es).entries = es := OrderedMap.entries_insertAll (hkeys ▸ values.nodup)
    rw [OrderedMap.keys, hentries, hkeys, OrderedMap.keys]

theorem contains_of_checkedIds {place : Place} {ids out : List Int} (h : s.checkedIds place ids = .ok out) :
    ∀ id ∈ out, s.schema.contains id = true := by
  simp only [checkedIds] at h
  split at h
  · cases h
  next hfind =>
    cases h
    intro id hid
    simpa using List.find?_eq_none.1 hfind id hid

theorem contains_of_checkedPredicate {text : Option String} {p : Predicate}
    (h : s.checkedPredicate text = .ok (some p)) : ∀ id ∈ p.propertyIds, s.schema.contains id = true := by
  unfold checkedPredicate at h
  split at h
  · cases h
  split at h
  · cases h
  next text _ =>
  cases hp : Predicate.compile text none with
  | error err => rw [hp] at h; cases h
  | ok q =>
    rw [hp] at h
    simp only [bind, Except.bind] at h
    split at h
    · cases h
    next hfind =>
      cases h
      intro id hid
      simpa using List.find?_eq_none.1 hfind id hid

theorem sound_of_checkedRules {step : Int} {drafts : List (Option String × Value)} {rules : List Rule}
    (h : s.checkedRules step drafts = .ok rules) : ∀ r ∈ rules, r.Sound s.schema := by
  induction drafts generalizing rules with
  | nil =>
    cases h
    exact fun r hr => nomatch hr
  | cons draft rest ih =>
    obtain ⟨text, target⟩ := draft
    unfold checkedRules at h
    split at h
    · cases h
    next n hn =>
    cases hp : s.checkedPredicate text with
    | error err => rw [hp] at h; cases h
    | ok p =>
      cases hrest : s.checkedRules step rest with
      | error err => rw [hp, hrest] at h; cases h
      | ok rules' =>
        rw [hp, hrest] at h
        cases h
        refine List.forall_mem_cons.2 ⟨⟨positive?_pos hn, fun q hq => ?_⟩, ih hrest⟩
        exact contains_of_checkedPredicate (hp.trans (congrArg Except.ok hq))

/-! ## Additions -/

theorem AddsBody.sound {body : StepBody} {d : StepDraft} (a : AddsBody s body d t x)
    (hbody : body.Sound s.schema) : x.Sound s.schema :=
  { id := positive?_pos a.id
    body := a.body ▸ hbody
    defaults := admits_of_checkedValues a.defaults
    required := contains_of_checkedIds a.required
    rules := sound_of_checkedRules a.rules }

/-- **Steps are added with a sound body**, whichever way they are added. -/
theorem addBody_of_addSay {text : String} {d : StepDraft} {r : Script × Step}
    (h : s.addSay text d = .ok r) : ∃ body : StepBody, body.Sound s.schema ∧ s.addBody body d = .ok r := by
  unfold addSay at h
  split at h
  · cases h
  next filled =>
    exact ⟨.say text [], .say (Bool.eq_false_iff.2 filled) List.nodup_nil fun c hc => (List.not_mem_nil hc).elim,
      h⟩

theorem addBody_of_addCall {c : CallDraft} {d : StepDraft} {r : Script × Step}
    (h : s.addCall c d = .ok r) : ∃ body : StepBody, body.Sound s.schema ∧ s.addBody body d = .ok r := by
  unfold addCall at h
  split at h
  · cases h
  next named =>
  split at h
  · cases h
  next result hresult =>
  split at h
  · cases h
  next harguments =>
    have hname : Text.isBlank (Text.strip c.name) = false :=
      (Text.isBlank_strip c.name).trans (Bool.eq_false_iff.2 named)
    have hcontains : s.schema.contains result = true := (Option.filter_eq_some_iff.1 hresult).2
    refine ⟨.call ⟨Text.strip c.name, c.properties, c.values, result⟩, .call hname hcontains fun e he => ?_, h⟩
    simpa using List.find?_eq_none.1 harguments e he

theorem addBody_of_addStep {text : String} {c : CallDraft} {d : StepDraft} {r : Script × Step}
    (h : s.addStep text c d = .ok r) : ∃ body : StepBody, body.Sound s.schema ∧ s.addBody body d = .ok r :=
  (addStep_cases h).elim addBody_of_addSay addBody_of_addCall

theorem AddsChoice.sound {step : Value} {d : ChoiceDraft} {c : Choice} (a : AddsChoice s step d t c x) :
    c.Sound s.schema :=
  { id := positive?_pos a.id
    text := a.text.2 ▸ a.text.1
    filled := by
      have hempty := congrArg List.isEmpty (keys_of_checkedValues a.values)
      simp only [OrderedMap.keys, List.isEmpty_map] at hempty
      exact hempty.trans a.filled
    values := admits_of_checkedValues a.values
    required := contains_of_checkedIds a.required }

/-- A step stays sound with one more choice, if no choice of the step has its number. -/
theorem sound_withChoice {schema : Schema} {c : Choice} (hx : x.Sound schema) (hc : c.Sound schema)
    (unused : x.choice? c.id = none) : (withChoice x c).Sound schema := by
  unfold withChoice
  split
  · next text choices hbody =>
    obtain ⟨filled, distinct, hchoices⟩ : Text.isBlank text = false ∧ (choices.map Choice.id).Nodup ∧
        ∀ c ∈ choices, c.Sound schema := by
      have h := hx.body
      rw [hbody] at h
      cases h with
      | say filled distinct hchoices => exact ⟨filled, distinct, hchoices⟩
    refine { hx with body := .say filled ?_ ?_ }
    · have hnew : c.id ∉ choices.map Choice.id := fun hmem => by
        obtain ⟨c', hc', hid⟩ := List.mem_map.1 hmem
        have hnone : x.choices.find? (fun c' => c'.id == c.id) = none := unused
        rw [Step.choices, hbody] at hnone
        exact List.find?_eq_none.1 hnone c' hc' (beq_iff_eq.2 hid)
      rw [List.map_append, List.map_singleton]
      exact List.nodup_append.2 ⟨distinct, by simp, fun i hi j hj => by
        rw [List.mem_singleton.1 hj]
        exact fun heq => hnew (heq ▸ hi)⟩
    · intro c' hc'
      rcases List.mem_append.1 hc' with hc' | hc'
      · exact hchoices c' hc'
      · exact List.mem_singleton.1 hc' ▸ hc
  · exact hx

/-! ## Scripts that were built -/

/-- Putting a step under its own number. What was first before stays first, unless the step is. -/
theorem Sound.insert (h : s.Sound) (hx : x.Sound s.schema) (hschema : t.schema = s.schema)
    (hsteps : t.steps = s.steps.insert x.id x) (hmarked : x.isFirst = true ↔ t.first = some x.id)
    (hfirst : ∀ id, id ≠ x.id → (t.first = some id ↔ s.first = some id)) : t.Sound := by
  constructor
  · intro id y hy
    rcases step?_of_insert hsteps hy with ⟨rfl, rfl⟩ | hy
    · rfl
    · exact h.keyed hy
  · intro id y hy
    rw [hschema]
    rcases step?_of_insert hsteps hy with ⟨-, rfl⟩ | hy
    · exact hx
    · exact h.step hy
  · intro id y hy
    by_cases heq : id = x.id
    · subst heq
      rcases step?_of_insert hsteps hy with ⟨-, rfl⟩ | hy'
      · exact hmarked
      · rw [step?, hsteps, OrderedMap.get?_insert, if_pos rfl] at hy
        cases hy
        exact hmarked
    · rcases step?_of_insert hsteps hy with ⟨heq', -⟩ | hy
      · exact absurd heq' heq
      · rw [hfirst id heq]
        exact h.marked hy
  · intro id hid
    rw [hasStep, hsteps, OrderedMap.contains_eq, OrderedMap.get?_insert]
    split
    · rfl
    · next heq =>
      rw [← OrderedMap.contains_eq]
      exact h.first ((hfirst id heq).1 hid)

theorem Sound.addBody (h : s.Sound) {body : StepBody} {d : StepDraft} (hbody : body.Sound s.schema)
    (a : AddsBody s body d t x) : t.Sound := by
  have hfirst : t.first = if x.isFirst then some x.id else s.first := a.script ▸ rfl
  have hunused : s.first ≠ some x.id := fun hid => by
    have := h.first hid
    rw [a.unused] at this
    cases this
  refine h.insert (a.sound hbody) (a.script ▸ rfl) (a.script ▸ rfl) ?_ fun id hid => ?_
  · rw [hfirst]
    cases x.isFirst with
    | true => simp
    | false => simpa using hunused
  · rw [hfirst]
    cases hx : x.isFirst with
    | true => simp [a.one_first (a.isFirst ▸ hx), Ne.symm hid]
    | false => simp

theorem Sound.addChoice (h : s.Sound) {step : Value} {d : ChoiceDraft} {c : Choice}
    (a : AddsChoice s step d t c x) : t.Sound := by
  obtain ⟨id, hid⟩ := exists_step?_of_lookUp a.found
  have hstep : s.step? x.id = some x := by rwa [h.keyed hid]
  have hfirst : t.first = s.first := a.script ▸ rfl
  refine h.insert (x := withChoice x c) (sound_withChoice (h.step hid) a.sound a.unused) (a.script ▸ rfl)
    ?_ ?_ fun id _ => by rw [hfirst]
  · rw [id_withChoice]
    exact a.script ▸ rfl
  · rw [id_withChoice, isFirst_withChoice, hfirst]
    exact h.marked hstep

/-- **Scripts that were built are sound.** -/
theorem Built.sound (b : s.Built) : s.Sound := by
  induction b with
  | @ofProperties ps s h =>
    have hnone : ∀ {id x}, s.step? id ≠ some x := fun hx => by
      rw [step?, steps_of_ofProperties h] at hx
      cases hx
    refine ⟨fun hx => absurd hx hnone, fun hx => absurd hx hnone, fun hx => absurd hx hnone, fun hid => ?_⟩
    rw [first_of_ofProperties h] at hid
    cases hid
  | addSay b h ih =>
    obtain ⟨body, hbody, h⟩ := addBody_of_addSay h
    exact ih.addBody hbody (addBody_adds h)
  | addCall b h ih =>
    obtain ⟨body, hbody, h⟩ := addBody_of_addCall h
    exact ih.addBody hbody (addBody_adds h)
  | addStep b h ih =>
    obtain ⟨body, hbody, h⟩ := addBody_of_addStep h
    exact ih.addBody hbody (addBody_adds h)
  | addChoice b h ih =>
    obtain ⟨x, a⟩ := addChoice_adds h
    exact ih.addChoice a
  | freeze b ih => exact ⟨ih.keyed, ih.step, ih.marked, ih.first⟩

end Script
end Walkthrough
