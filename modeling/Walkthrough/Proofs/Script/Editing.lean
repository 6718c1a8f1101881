/-
# Editing a script in place

An addition checks everything first. Then it writes, to the table of steps and, if the step is the first
one, to the first step (`Editing.body`, `Editing.choice`). Between the two writes nothing can be refused, so
an edit in place does what the addition does at once (`body_eq`, `choice_eq`), and a refused edit leaves the
script as it was (`Edit.perform_error`). A script that is closed refuses every edit but closing it again.
-/

import Walkthrough.Proofs.Script.Sound

namespace Walkthrough

/-- A program that edits a script. What was written before it breaks off stays written. -/
abbrev Editing := EStateM Error Script

namespace Editing

variable {α β : Type} {s t : Script}

/-- A check reads the script and writes nothing. -/
def check (r : Script → Except Error α) : Editing α := fun s =>
  match r s with
  | .ok a => .ok a s
  | .error err => .error err s

/-- An addition that gives the new script at once. -/
def atOnce (add : Script → Except Error (Script × α)) : Editing α := fun s =>
  match add s with
  | .ok (t, a) => .ok a t
  | .error err => .error err s

/-- What is done at once is done as a whole or not at all. -/
theorem discard_atOnce (add : Script → Except Error (Script × α)) (s : Script) :
    (∃ t a, add s = .ok (t, a) ∧ ((fun _ => ()) <$> atOnce add) s = .ok () t) ∨
      ∃ err, add s = .error err ∧ ((fun _ => ()) <$> atOnce add) s = .error err s := by
  change (∃ t a, _ ∧ EStateM.map _ (atOnce add) s = _) ∨ ∃ err, _ ∧ EStateM.map _ (atOnce add) s = _
  unfold EStateM.map atOnce
  cases h : add s with
  | ok r => exact .inl ⟨r.1, r.2, rfl, by simp only⟩
  | error err => exact .inr ⟨err, rfl, by simp only⟩

theorem check_bind_atOnce (r : Script → Except Error α) (add : α → Script → Except Error (Script × β)) :
    (check r >>= fun a => atOnce (add a)) = atOnce fun s => r s >>= fun a => add a s := by
  funext s
  change EStateM.bind (check r) _ s = _
  unfold EStateM.bind check atOnce
  cases hr : r s <;> simp only [hr] <;> rfl

/-! ## Steps -/

/-- The number under which a step can be added. -/
def newStep (d : StepDraft) (s : Script) : Except Error Int :=
  if s.frozen then Script.refuse .running
  else match Script.positive? d.id with
    | none => Script.refuse (.badStepId d.id)
    | some id =>
      if s.hasStep id then Script.refuse (.repeatedStep id)
      else match if d.first then s.first else none with
        | some first => Script.refuse (.repeatedFirstStep id first)
        | none => .ok id

/-- Writes a step, and then that it is the first one if it is. -/
def register (x : Step) : Editing Step := do
  modify fun s => { s with steps := s.steps.insert x.id x }
  if x.isFirst then modify fun s => { s with first := some x.id }
  return x

/-- Adds a step that does something that was checked before. -/
def body (body : StepBody) (d : StepDraft) : Editing Step := do
  let id ← check (newStep d)
  check fun _ => Script.named (.step id)
  let defaults ← check fun s => s.checkedValues (.step id) d.defaults
  let required ← check fun s => s.checkedIds (.step id) d.required
  let rules ← check fun s => s.checkedRules id d.rules
  register ⟨id, body, d.first, defaults, required, rules⟩

theorem register_eq (x : Step) : register x = atOnce fun s =>
    .ok ({ s with steps := s.steps.insert x.id x, first := if x.isFirst then some x.id else s.first }, x) := by
  funext s
  unfold register atOnce
  cases x.isFirst <;> rfl

theorem body_eq (b : StepBody) (d : StepDraft) : body b d = atOnce fun s => s.addBody b d := by
  unfold body
  simp only [register_eq, check_bind_atOnce]
  congr 1
  funext s
  simp only [newStep, Script.addBody]
  cases s.frozen with
  | true => rfl
  | false =>
    cases Script.positive? d.id with
    | none => rfl
    | some id =>
      cases hasStep : s.hasStep id with
      | true => simp only [hasStep]; rfl
      | false =>
        simp only [hasStep]
        cases (if d.first = true then s.first else none) with
        | some first => rfl
        | none =>
          simp only [Bool.false_eq_true, if_false, bind, Except.bind]
          cases Script.named (.step id) <;> rfl

/-- Adds a step that shows a text. -/
def say (text : String) (d : StepDraft) : Editing Step := do
  check fun _ => if Text.isBlank text then Script.refuse (.emptyStep d.id) else .ok ()
  body (.say text []) d

/-- Adds a step that calls a function. -/
def call (c : CallDraft) (d : StepDraft) : Editing Step := do
  check fun _ => if Text.isBlank c.name then Script.refuse (.emptyStep d.id) else .ok ()
  let result ← check fun s => match c.result.filter fun id => s.schema.contains id with
    | none => Script.refuse (.noResultProperty d.id)
    | some result => .ok result
  check fun s => match c.properties.entries.find? fun e => !s.schema.contains e.2 with
    | some (argument, id) => Script.refuse (.unknownArgument d.id argument id)
    | none => .ok ()
  body (.call ⟨Text.strip c.name, c.properties, c.values, result⟩) d

/-- Adds a step that shows a text or calls a function, whichever is given. -/
def step (text : String) (c : CallDraft) (d : StepDraft) : Editing Step := do
  check fun _ => if !Text.isBlank text && !Text.isBlank c.name then
    Script.refuse (.textAndFunction d.id) else .ok ()
  if !Text.isBlank c.name then call c d
  else do
    check fun _ => if c.result.any (· != 0) || !c.properties.isEmpty || !c.values.isEmpty then
      Script.refuse (.functionFieldsOnSayStep d.id) else .ok ()
    say text d

theorem say_eq (text : String) (d : StepDraft) : say text d = atOnce fun s => s.addSay text d := by
  unfold say
  simp only [body_eq, check_bind_atOnce]
  congr 1
  funext s
  unfold Script.addSay
  cases Text.isBlank text <;> rfl

theorem call_eq (c : CallDraft) (d : StepDraft) : call c d = atOnce fun s => s.addCall c d := by
  unfold call
  simp only [body_eq, check_bind_atOnce]
  congr 1
  funext s
  unfold Script.addCall
  cases Text.isBlank c.name with
  | true => rfl
  | false =>
    cases c.result.filter fun id => s.schema.contains id with
    | none => rfl
    | some result =>
      cases c.properties.entries.find? fun e => !s.schema.contains e.2 <;> rfl

theorem step_eq (text : String) (c : CallDraft) (d : StepDraft) :
    step text c d = atOnce fun s => s.addStep text c d := by
  unfold step Script.addStep
  cases Text.isBlank c.name with
  | false =>
    simp only [call_eq, Bool.not_false, if_true, check_bind_atOnce]
    cases Text.isBlank text <;> rfl
  | true =>
    simp only [say_eq, Bool.not_true, Bool.false_eq_true, if_false, check_bind_atOnce, Bool.and_false]
    congr 1
    funext s
    cases c.result.any (· != 0) || !c.properties.isEmpty || !c.values.isEmpty <;> rfl

/-! ## Choices -/

/-- The say step to which a choice can be added. -/
def sayStep (step : Value) (s : Script) : Except Error Step :=
  if s.frozen then Script.refuse .running
  else do match ← s.lookUp step with
    | none => Script.refuse (.unknownStep step)
    | some x => if !x.isSay then Script.refuse (.choiceOnFunctionStep step) else .ok x

/-- The number under which a choice can be added to a step. -/
def newChoice (step : Value) (d : ChoiceDraft) (x : Step) : Except Error Int :=
  match Script.positive? d.id with
  | none => Script.refuse (.badChoiceId step d.id)
  | some id =>
    if (x.choice? id).isSome then Script.refuse (.repeatedChoice step d.id)
    else if Text.isBlank d.text then Script.refuse (.emptyChoiceText step d.id)
    else if d.values.isEmpty then Script.refuse (.emptyChoiceValues step d.id)
    else .ok id

/-- Writes a step with one more choice. -/
def registerChoice (x : Step) (c : Choice) : Editing Choice := do
  modify fun s => { s with steps := s.steps.insert x.id (Script.withChoice x c) }
  return c

/-- Adds a choice to a say step. -/
def choice (step : Value) (d : ChoiceDraft) : Editing Choice := do
  let x ← check (sayStep step)
  let id ← check fun _ => newChoice step d x
  check fun _ => Script.named (.choice step d.id)
  let values ← check fun s => s.checkedValues (.choice step d.id) d.values
  let required ← check fun s => s.checkedIds (.choice step d.id) d.required
  registerChoice x ⟨id, d.text, values, required⟩

theorem registerChoice_eq (x : Step) (c : Choice) : registerChoice x c = atOnce fun s =>
    .ok ({ s with steps := s.steps.insert x.id (Script.withChoice x c) }, c) := rfl

theorem choice_eq (step : Value) (d : ChoiceDraft) :
    choice step d = atOnce fun s => s.addChoice step d := by
  unfold choice
  simp only [registerChoice_eq, check_bind_atOnce]
  congr 1
  funext s
  unfold sayStep Script.addChoice newChoice
  cases s.frozen with
  | true => rfl
  | false =>
    cases s.lookUp step with
    | error err => rfl
    | ok x? =>
      cases x? with
      | none => rfl
      | some x =>
        simp only [Bool.false_eq_true, if_false, bind, Except.bind]
        cases x.isSay with
        | false => rfl
        | true =>
          cases Script.positive? d.id with
          | none => rfl
          | some id =>
            simp only [Bool.not_true, Bool.false_eq_true, if_false]
            cases (x.choice? id).isSome with
            | true => rfl
            | false => cases Text.isBlank d.text <;> cases d.values.isEmpty <;> rfl

end Editing

/-! ## Runs of edits -/

/-- What a caller can ask of a script that is built. -/
inductive Edit where
  | say (text : String) (d : StepDraft)
  | call (c : CallDraft) (d : StepDraft)
  | step (text : String) (c : CallDraft) (d : StepDraft)
  | choice (n : Value) (d : ChoiceDraft)
  | freeze

namespace Edit

variable {s t : Script} {e : Edit}

/-- Does what is asked. -/
def perform : Edit → Editing Unit
  | say text d => (fun _ => ()) <$> Editing.say text d
  | call c d => (fun _ => ()) <$> Editing.call c d
  | step text c d => (fun _ => ()) <$> Editing.step text c d
  | choice n d => (fun _ => ()) <$> Editing.choice n d
  | freeze => modify Script.freeze

/-- Whether an edit closes the script. -/
def isFreeze : Edit → Bool
  | freeze => true
  | _ => false

/-- The script that an edit leaves behind, whatever comes of it. -/
def after (e : Edit) (s : Script) : Script :=
  match e.perform s with
  | .ok _ t => t
  | .error _ t => t

/-- What an edit does, if it is not refused: it adds to a script that is open, or closes it. -/
inductive Effect (s : Script) : Edit → Script → Prop where
  | say {text : String} {d : StepDraft} {t : Script} {x : Step} (h : s.addSay text d = .ok (t, x)) :
      Effect s (.say text d) t
  | call {c : CallDraft} {d : StepDraft} {t : Script} {x : Step} (h : s.addCall c d = .ok (t, x)) :
      Effect s (.call c d) t
  | step {text : String} {c : CallDraft} {d : StepDraft} {t : Script} {x : Step}
      (h : s.addStep text c d = .ok (t, x)) : Effect s (.step text c d) t
  | choice {step : Value} {d : ChoiceDraft} {t : Script} {c : Choice} (h : s.addChoice step d = .ok (t, c)) :
      Effect s (.choice step d) t
  | freeze : Effect s .freeze s.freeze

/-- **An edit is done as a whole or not at all.** -/
theorem perform_cases (e : Edit) (s : Script) :
    (∃ t, e.perform s = .ok () t ∧ Effect s e t) ∨ ∃ err, e.perform s = .error err s := by
  cases e with
  | say text d =>
    rw [perform, Editing.say_eq]
    exact (Editing.discard_atOnce _ s).imp (fun ⟨t, _, h, ht⟩ => ⟨t, ht, .say h⟩) fun ⟨err, _, h⟩ => ⟨err, h⟩
  | call c d =>
    rw [perform, Editing.call_eq]
    exact (Editing.discard_atOnce _ s).imp (fun ⟨t, _, h, ht⟩ => ⟨t, ht, .call h⟩) fun ⟨err, _, h⟩ => ⟨err, h⟩
  | step text c d =>
    rw [perform, Editing.step_eq]
    exact (Editing.discard_atOnce _ s).imp (fun ⟨t, _, h, ht⟩ => ⟨t, ht, .step h⟩) fun ⟨err, _, h⟩ => ⟨err, h⟩
  | choice step d =>
    rw [perform, Editing.choice_eq]
    exact (Editing.discard_atOnce _ s).imp (fun ⟨t, _, h, ht⟩ => ⟨t, ht, .choice h⟩)
      fun ⟨err, _, h⟩ => ⟨err, h⟩
  | freeze => exact .inl ⟨s.freeze, rfl, .freeze⟩

/-- A refused edit leaves the script as it was: its steps, their order, its first step, and whether it is
closed. -/
theorem perform_error {err : Error} (h : e.perform s = .error err t) : t = s := by
  rcases perform_cases e s with ⟨t', hok, -⟩ | ⟨err', herr⟩
  · rw [hok] at h
    cases h
  · rw [herr] at h
    cases h
    rfl

theorem after_cases (e : Edit) (s : Script) : Effect s e (e.after s) ∨ e.after s = s := by
  unfold after
  rcases perform_cases e s with ⟨t, hok, heffect⟩ | ⟨err, herr⟩
  · rw [hok]
    exact .inl heffect
  · rw [herr]
    exact .inr rfl

theorem Effect.built (h : Effect s e t) (b : s.Built) : t.Built := by
  cases h with
  | say h => exact b.addSay h
  | call h => exact b.addCall h
  | step h => exact b.addStep h
  | choice h => exact b.addChoice h
  | freeze => exact b.freeze

/-- Only an open script is added to. It stays open, and its properties stay. -/
theorem Effect.of_addition (h : Effect s e t) (he : e.isFreeze = false) :
    s.frozen = false ∧ t.frozen = false ∧ t.schema = s.schema := by
  have step {body : StepBody} {d : StepDraft} {x : Step} (h : s.addBody body d = .ok (t, x)) :
      s.frozen = false ∧ t.frozen = false ∧ t.schema = s.schema := by
    have a := Script.addBody_adds h
    exact ⟨a.opened, a.script ▸ a.opened, a.script ▸ rfl⟩
  cases h with
  | say h => exact step (Script.addSay_eq_addBody h)
  | call h => exact step (Script.addCall_eq_addBody h).choose_spec
  | step h => exact step (Script.addStep_eq_addBody h).choose_spec
  | choice h =>
    obtain ⟨x, a⟩ := Script.addChoice_adds h
    exact ⟨a.opened, a.script ▸ a.opened, a.script ▸ rfl⟩
  | freeze => cases he

/-- **A closed script refuses every addition.** -/
theorem perform_of_frozen (hs : s.frozen = true) (he : e.isFreeze = false) :
    ∃ err, e.perform s = .error err s := by
  refine (perform_cases e s).resolve_left ?_
  rintro ⟨t, -, heffect⟩
  rw [(heffect.of_addition he).1] at hs
  cases hs

end Edit

namespace Script

variable {s : Script}

/-- **A run**: edits one after the other, whatever comes of each. -/
def edited (s : Script) (edits : List Edit) : Script := edits.foldl (fun s e => e.after s) s

theorem Built.edited (b : s.Built) (edits : List Edit) : (s.edited edits).Built := by
  induction edits generalizing s with
  | nil => exact b
  | cons e rest ih =>
    rcases e.after_cases s with heffect | hsame
    · exact ih (heffect.built b)
    · exact ih (show (e.after s).Built by rwa [hsame])

theorem after_keeps (e : Edit) (s : Script) :
    (e.after s).schema = s.schema ∧ (e.after s).frozen = (s.frozen || e.isFreeze) := by
  cases he : e.isFreeze with
  | true =>
    cases e <;> cases he
    rw [Bool.or_true]
    exact ⟨rfl, rfl⟩
  | false =>
    rw [Bool.or_false]
    rcases e.after_cases s with heffect | hsame
    · obtain ⟨hs, ht, hschema⟩ := heffect.of_addition he
      exact ⟨hschema, ht.trans hs.symm⟩
    · rw [hsame]
      exact ⟨rfl, rfl⟩

/-- The properties stay, and a script is closed from the first edit on that closes it. -/
theorem edited_keeps (edits : List Edit) :
    (s.edited edits).schema = s.schema ∧ (s.edited edits).frozen = (s.frozen || edits.any Edit.isFreeze) := by
  induction edits generalizing s with
  | nil => exact ⟨rfl, (Bool.or_false _).symm⟩
  | cons e rest ih =>
    obtain ⟨hschema, hfrozen⟩ := after_keeps e s
    obtain ⟨ihschema, ihfrozen⟩ := ih (s := e.after s)
    refine ⟨ihschema.trans hschema, ihfrozen.trans ?_⟩
    rw [hfrozen, List.any_cons, Bool.or_assoc]

/-- **Building.** After any edits of a new script, refused ones included, its steps are sound and numbered
apart; it has a first step exactly if one of its steps is first, and no other step is; a refused edit leaves
it as it was; and once it was closed every addition is refused. -/
theorem edited_sound {properties : List Property} (h : ofProperties properties = .ok s) (edits : List Edit) :
    let t := s.edited edits
    (∀ x ∈ t.stepList, x.Sound s.schema) ∧ (t.stepList.map Step.id).Nodup ∧
      (t.first = none ↔ ∀ x ∈ t.stepList, x.isFirst = false) ∧
      (∀ id, t.first = some id →
        ∃ x ∈ t.stepList, x.id = id ∧ ∀ y ∈ t.stepList, y.isFirst = true ↔ y = x) ∧
      (∀ e err u, Edit.perform e t = .error err u → u = t) ∧
      (edits.any Edit.isFreeze = true → ∀ e : Edit, e.isFreeze = false → ∃ err, e.perform t = .error err t) := by
  intro t
  have sound : t.Sound := ((Built.ofProperties h).edited edits).sound
  obtain ⟨hschema, hfrozen⟩ := edited_keeps (s := s) edits
  refine ⟨fun x hx => hschema ▸ sound.of_mem hx, sound.nodup_ids, sound.first_eq_none_iff,
    fun id => sound.only_first, fun e err u => Edit.perform_error,
    fun hany e he => Edit.perform_of_frozen ?_ he⟩
  exact hfrozen.trans (by rw [hany, Bool.or_true])

/-! ## A quiz -/

/-- A number that is asked for. -/
def guess : Property := ⟨1, "guess", .int, none, by decide, by decide⟩

/-- A script without steps over it. -/
def blankQuiz : Script := ⟨Schema.empty.declare guess, .empty, none, false⟩

/-- Two steps and a choice, between edits that are refused: a second first step, a choice whose value is no
number, and a step that comes too late. -/
def quizEdits : List Edit :=
  [.say "How many?" { id := .int 1, first := true, rules := [(none, .int 2)] },
    .choice (.int 1) { id := .int 7, text := "A dozen", values := .ofList [(1, .text " 12 ")] },
    .say "Again?" { id := .int 3, first := true },
    .choice (.int 1) { id := .int 8, text := "Many", values := .ofList [(1, .text "many")] },
    .call { name := " round ", result := some 1, properties := .ofList [("n", 1)] } { id := .int 2 },
    .freeze, .say "Late" { id := .int 4 }]

theorem quiz_sound :
    let t := blankQuiz.edited quizEdits
    t.stepList.map Step.id = [1, 2] ∧ (∀ x ∈ t.stepList, x.Sound blankQuiz.schema) ∧
      (∃ x ∈ t.stepList, x.id = 1 ∧ ∀ y ∈ t.stepList, y.isFirst = true ↔ y = x) ∧
      ∃ err, Edit.perform (.choice (.int 1) { id := .int 9, text := "None", values := .ofList [(1, .int 0)] }) t =
        .error err t := by
  obtain ⟨hsteps, -, -, hfirst, -, hclosed⟩ :=
    edited_sound (show ofProperties [guess] = .ok blankQuiz from rfl) quizEdits
  exact ⟨by decide +kernel, hsteps, hfirst 1 (by decide +kernel), hclosed rfl _ rfl⟩

end Script
end Walkthrough
