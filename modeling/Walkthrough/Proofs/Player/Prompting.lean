/-
# Prompts for what is missing

After the choice prompt a player asks for the required properties that are missing then, by their names and in
ascending order, before it goes on. It leaves out those that some choice of the step fills in, whether or not it is
the one that was selected: they are asked for through the choices.

| missing after the choice prompt | asked for by its name |
| --- | --- |
| filled in by no choice of the step | yes |
| filled in by the choice that was selected, with a blank value | no |
| filled in by another choice only | no |
-/

import Walkthrough.Proofs.Engine.Complaints
import Walkthrough.Proofs.Player.Answering

namespace Walkthrough

/-- The number of a property that is found is the one that was looked for. -/
theorem Schema.id_of_get? {schema : Schema} {id : Int} {q : Property} (h : schema.get? id = some q) : q.id = id :=
  schema.keyed _ (OrderedMap.get?_eq_some_iff.1 h)

/-- **A console that keeps a record** of the questions that were answered at it. -/
def Console.Records {σ : Type} (c : Console σ) (prompts : σ → List String) : Prop :=
  ∀ prompt default s answer s', c.ask prompt default s = .ok answer s' → prompts s' = prompts s ++ [prompt]

/-- A rehearsal keeps one. -/
theorem Rehearsal.console_records : Rehearsal.console.Records Rehearsal.prompts := by
  intro prompt default r text r' h
  have hanswer : Rehearsal.answer default (r.note (.asked prompt default)) = .ok text r' := h
  have hpassed : r'.passed = r.passed ++ [.asked prompt default] := by
    unfold Rehearsal.answer at hanswer
    split at hanswer
    · cases hanswer
      rfl
    · dsimp only at hanswer
      split at hanswer
      · cases hanswer
        rfl
      · split at hanswer <;> cases hanswer
        rfl
  unfold Rehearsal.prompts
  rw [hpassed, List.filterMap_append]
  rfl

namespace Player

variable {σ : Type} {c : Console σ} {prompts : σ → List String} {step : Step} {p p₁ p₂ : Player σ}

/-! ## One question after the other -/

/-- The property that is asked for. -/
theorem read_property_ok {id : Int} {q : Property} (h : read (fun e => e.store.property id) p = .ok q p₁) :
    p.engine.store.schema.get? id = some q ∧ p₁ = p := by
  obtain ⟨hread, rfl⟩ := read_ok h
  refine ⟨?_, rfl⟩
  unfold Store.property at hread
  split at hread
  · next hq =>
    cases hread
    exact hq
  · cases hread

theorem goBackOn_false {answer : Value} (h : goBackOn answer p = .ok false p₁) : p₁ = p := by
  unfold goBackOn at h
  split at h
  · obtain ⟨_, _, _, h⟩ := bind_ok h
    cases h
  · cases h
    rfl

/-- **A question for a property**, if it is answered, the answer does not go back, and the value is accepted. -/
theorem askProperties_cons (records : c.Records prompts) (interactive : p.prepared = none) {step id : Int}
    {rest : List Int} (h : askProperties c step (id :: rest) p = .ok false p₂) :
    ∃ q p₁, p.engine.store.schema.get? id = some q ∧ askProperties c step rest p₁ = .ok false p₂ ∧
      p₁.prepared = none ∧ p₁.engine.store.schema = p.engine.store.schema ∧
      prompts p₁.console = prompts p.console ++ [q.name] := by
  unfold askProperties at h
  obtain ⟨q, q₁, hread, h⟩ := bind_ok h
  obtain ⟨answer, q₂, hask, h⟩ := bind_ok h
  obtain ⟨back, q₃, hback, h⟩ := bind_ok h
  obtain ⟨hq, rfl⟩ := read_property_ok hread
  obtain ⟨hengine, hq₂⟩ := talks_ask c step q.name none _ _ _ interactive hask
  have hprompts : prompts q₂.console = prompts q₁.console ++ [q.name] := by
    rw [ask_eq_askConsole interactive, askConsole] at hask
    split at hask
    · next text console hanswer =>
      cases hask
      exact records _ _ _ _ _ hanswer
    · cases hask
  cases back with
  | true => cases h
  | false =>
    obtain rfl : q₂ = q₃ := (goBackOn_false hback).symm
    dsimp only at h
    rw [if_neg Bool.false_ne_true] at h
    split at h
    · obtain ⟨u, q₄, hact, h⟩ := bind_ok h
      obtain ⟨e', hset, rfl⟩ := act_ok hact
      have hstays := Engine.setValue_stays id answer q₂.engine
      rw [Act.after_ok hset, hengine] at hstays
      exact ⟨q, _, hq, h, hq₂, hstays.schema, hprompts⟩
    · exact ⟨q, q₂, hq, h, hq₂, by rw [hengine], hprompts⟩

/-- All questions, if none is answered by going back. -/
theorem askProperties_asks (records : c.Records prompts) {step : Int} {ids : List Int} (interactive : p.prepared = none)
    (h : askProperties c step ids p = .ok false p₂) :
    ∃ asked : List Property, asked.map Property.id = ids ∧
      (∀ q ∈ asked, p.engine.store.schema.get? q.id = some q) ∧
      prompts p₂.console = prompts p.console ++ asked.map Property.name := by
  induction ids generalizing p with
  | nil =>
    cases h
    exact ⟨[], rfl, fun q hq => absurd hq List.not_mem_nil, (List.append_nil _).symm⟩
  | cons id rest ih =>
    obtain ⟨q, p₁, hq, hrest, hp₁, hschema, hprompts⟩ := askProperties_cons records interactive h
    obtain ⟨asked, hids, hfound, hmore⟩ := ih hp₁ hrest
    have hid := Schema.id_of_get? hq
    refine ⟨q :: asked, by rw [List.map_cons, hids, hid], List.forall_mem_cons.2 ⟨hid.symm ▸ hq, ?_⟩, ?_⟩
    · exact hschema ▸ hfound
    · rw [hmore, hprompts, List.append_assoc]
      rfl

/-! ## The attempt -/

/-- A part of a player that prepares no answers. -/
def Unprepared {α : Type} (m : Play σ α) : Prop :=
  ∀ (p p' : Player σ) (a : α), p.prepared = none → m p = .ok a p' → p'.prepared = none

section Unprepared

variable {α β : Type}

theorem Talks.unprepared {m : Play σ α} (hm : Talks m) : Unprepared m := fun p p' a hp h => (hm p p' a hp h).2

theorem Unprepared.bind {m : Play σ α} {f : α → Play σ β} (hm : Unprepared m) (hf : ∀ a, Unprepared (f a)) :
    Unprepared (m >>= f) := by
  intro p p' b hp h
  obtain ⟨a, p₁, h₁, h₂⟩ := bind_ok h
  exact hf a p₁ p' b (hm p p₁ a hp h₁) h₂

theorem unprepared_act (m : Act α) : Unprepared (act m : Play σ α) := fun p p' a hp h => by
  obtain ⟨e', -, rfl⟩ := act_ok h
  exact hp

theorem unprepared_goBackOn (answer : Value) : Unprepared (goBackOn answer : Play σ Bool) := by
  unfold goBackOn
  split
  · exact (unprepared_act _).bind fun _ => (Talks.pure true).unprepared
  · exact (Talks.pure false).unprepared

theorem unprepared_heed (step : Step) (answer : Value) : Unprepared (heed step answer : Play σ Bool) := by
  unfold heed
  refine (unprepared_goBackOn answer).bind fun back => ?_
  split
  · exact (Talks.pure true).unprepared
  · refine (talks_read _).unprepared.bind fun text => ?_
    split
    · exact (Talks.pure false).unprepared
    · exact (talks_read _).unprepared.bind fun choice => (unprepared_act _).bind fun _ => (Talks.pure false).unprepared

/-- Offering choices does not prepare answers. -/
theorem unprepared_offerChoices (c : Console σ) (rich : Bool) (step : Step) : Unprepared (offerChoices c rich step) :=
  offerChoices_eq c rich step ▸ (talks_askChoice c rich step).unprepared.bind (unprepared_heed step)

end Unprepared

/-- An attempt in which a choice was offered and the properties were asked for goes on. -/
theorem attempt_eq_goOn {rich : Bool} {text : String} (shown : p.engine.stepText none rich = .ok text)
    (current : p.engine.currentStep = some step) (choices : step.choices ≠ [])
    (offered : offerChoices c rich step { p with console := c.display text p.console } = .ok false p₁)
    (answered : askProperties c step.id (toAsk p₁.engine step) p₁ = .ok false p₂) :
    attempt c rich p = goOn p₂ := by
  have hread : read (fun e => e.stepText none rich) p = .ok text p := by
    unfold read
    dsimp only
    rw [shown]
  unfold attempt
  rw [bind_of_ok hread,
    bind_of_ok (show display c text p = .ok () { p with console := c.display text p.console } from rfl),
    bind_of_ok (show (get : Play σ (Player σ)) { p with console := c.display text p.console } = .ok _ _ from rfl)]
  dsimp only
  rw [current]
  dsimp only
  have hsome : (!step.choices.isEmpty) = true := by simp [choices]
  rw [if_pos hsome, bind_of_ok offered, if_neg Bool.false_ne_true,
    bind_of_ok (show (get : Play σ (Player σ)) p₁ = .ok p₁ p₁ from rfl)]
  have hnone : (step.choices.isEmpty && (toAsk p₁.engine step).isEmpty && !step.isFinal) = false := by simp [choices]
  rw [hnone, if_neg Bool.false_ne_true, bind_of_ok answered]
  rfl

/-- The properties that are asked for are those that are missing and that no choice of the step fills in. -/
theorem mem_toAsk {e : Engine} {id : Int} :
    id ∈ toAsk e step ↔ id ∈ e.missingRequired ∧ ∀ c ∈ step.choices, c.values.contains id = false := by
  have hcontains : ∀ c : Choice, c.values.contains id = false ↔ id ∉ c.values.keys := fun c => by
    rw [Bool.eq_false_iff, ne_eq, OrderedMap.contains_iff, ← OrderedMap.mem_keys_iff]
  unfold toAsk
  rw [List.mem_filter, Bool.not_eq_true', ← Bool.not_eq_true, List.contains_iff_mem, List.mem_flatMap, not_exists]
  simp only [hcontains, not_and]

theorem pairwise_toAsk (e : Engine) (step : Step) : (toAsk e step).Pairwise (· < ·) := by
  refine List.Pairwise.filter _ ?_
  unfold Engine.missingRequired
  split
  · exact Chain.pairwise_missing _ _ _
  · exact .nil

/-- **A player asks for what is missing** after the choice prompt and is filled in by no choice of the step: for
exactly these properties, each once, by their names and in ascending order, and only then it goes on. This holds in
every state of an engine and at every console that keeps a record, in any attempt in which the choice prompt and the
questions after it end well and no answer goes back. -/
theorem attempt_asks (records : c.Records prompts) {rich : Bool} {text : String} (interactive : p.prepared = none)
    (shown : p.engine.stepText none rich = .ok text) (current : p.engine.currentStep = some step)
    (choices : step.choices ≠ [])
    (offered : offerChoices c rich step { p with console := c.display text p.console } = .ok false p₁)
    (answered : askProperties c step.id (toAsk p₁.engine step) p₁ = .ok false p₂) :
    attempt c rich p = goOn p₂ ∧ ∃ asked : List Property,
      prompts p₂.console = prompts p₁.console ++ asked.map Property.name ∧
      (∀ q ∈ asked, p₁.engine.store.schema.get? q.id = some q) ∧
      (asked.map Property.id).Pairwise (· < ·) ∧
      ∀ id, id ∈ asked.map Property.id ↔
        id ∈ p₁.engine.missingRequired ∧ ∀ c ∈ step.choices, c.values.contains id = false := by
  have hp₁ : p₁.prepared = none := unprepared_offerChoices c rich step _ _ _ (by exact interactive) offered
  obtain ⟨asked, hids, hfound, hprompts⟩ := askProperties_asks records hp₁ answered
  refine ⟨attempt_eq_goOn shown current choices offered answered, asked, hprompts, hfound, ?_, fun id => ?_⟩
  · rw [hids]
    exact pairwise_toAsk _ _
  · rw [hids]
    exact mem_toAsk

/-! ## Orders -/

/-- The player after a part that ended well without going back. -/
def stayed : EStateM.Result Error (Player σ) Bool → Option (Player σ)
  | .ok false p => some p
  | _ => none

theorem eq_ok_of_stayed {r : EStateM.Result Error (Player σ) Bool} (h : stayed r = some p) : r = .ok false p := by
  unfold stayed at h
  split at h
  · cases h
    rfl
  · cases h

/-- The complaint about properties that are not filled in, and the player after it. -/
def complaint : EStateM.Result Error (Player σ) Bool → Option (List Int × List String × Player σ)
  | .error (.script (.required ids names)) p => some (ids, names, p)
  | _ => none

theorem eq_error_of_complaint {r : EStateM.Result Error (Player σ) Bool} {ids : List Int} {names : List String}
    (h : complaint r = some (ids, names, p)) : r = .error (.script (.required ids names)) p := by
  unfold complaint at h
  split at h
  · cases h
    rfl
  · cases h

/-- A player in front of the choice prompt of a menu. -/
def served (choices : List ChoiceDraft) (answers : List Value) : Player Rehearsal :=
  let p := menuPlayer choices [.perform .start] answers
  { p with console := Rehearsal.console.display "Menu" p.console }

/-- Two orders, the first of which requires a number. -/
def orders : List ChoiceDraft :=
  [{ id := .int 1, text := "Tea", values := .ofList [(1, .text "tea")], required := [2] },
    { id := .int 2, text := "Water", values := .ofList [(1, .text "water")] }]

/-- Who orders tea is asked how many. -/
theorem tea_counted :
    let p := menuPlayer orders [.perform .start] [.text "Tea", .text "3"]
    ∃ step p₁ p₂, p.engine.currentStep = some step ∧
      offerChoices Rehearsal.console false step (served orders [.text "Tea", .text "3"]) = .ok false p₁ ∧
      p₁.engine.missingRequired = [2] ∧ attempt Rehearsal.console false p = goOn p₂ ∧
      ∃ asked : List Property, p₂.console.prompts = p₁.console.prompts ++ asked.map Property.name ∧
        2 ∈ asked.map Property.id := by
  intro p
  have hplayed : (p.engine.currentStep.any fun step => !step.choices.isEmpty &&
      ((step.choices.all fun c => !c.values.contains 2) &&
        (stayed (offerChoices Rehearsal.console false step (served orders [.text "Tea", .text "3"]))).any fun p₁ =>
          p₁.engine.missingRequired == [2] &&
            (stayed (askProperties Rehearsal.console step.id (toAsk p₁.engine step) p₁)).isSome)) = true := by
    decide +kernel
  have hshown : p.engine.stepText none false = .ok "Menu" := ok_of_toOption (by decide +kernel)
  obtain ⟨step, hstep, hplayed⟩ := (Option.any_eq_true _ _).1 hplayed
  rw [Bool.and_eq_true, Bool.and_eq_true, Bool.not_eq_true', List.isEmpty_eq_false_iff, List.all_eq_true] at hplayed
  obtain ⟨hchoices, hfree, hplayed⟩ := hplayed
  obtain ⟨p₁, hoffered, hplayed⟩ := (Option.any_eq_true _ _).1 hplayed
  rw [Bool.and_eq_true, beq_iff_eq] at hplayed
  obtain ⟨p₂, hanswered⟩ := Option.isSome_iff_exists.1 hplayed.2
  obtain ⟨hgoes, asked, hprompts, -, -, hasked⟩ := attempt_asks Rehearsal.console_records rfl hshown hstep hchoices
    (eq_ok_of_stayed hoffered) (eq_ok_of_stayed hanswered)
  refine ⟨step, p₁, p₂, hstep, eq_ok_of_stayed hoffered, hplayed.1, hgoes, asked, hprompts, (hasked 2).2 ⟨?_, ?_⟩⟩
  · rw [hplayed.1]
    exact List.mem_singleton_self 2
  · exact fun c hc => by simpa using hfree c hc

/-- Two favours, the second of which requires what only the first one fills in. -/
def favours : List ChoiceDraft :=
  [{ id := .int 1, text := "Mine", values := .ofList [(1, .text "mine")] },
    { id := .int 2, text := "Other", values := .ofList [(3, .bool true)], required := [1] }]

/-- **What another choice fills in is not asked for.** The second favour is selected and lacks its note, which nobody
asks for; so the attempt fails. -/
theorem other_not_asked :
    let p := menuPlayer favours [.perform .start] [.text "Other"]
    ∃ step p₁ p', p.engine.currentStep = some step ∧
      offerChoices Rehearsal.console false step (served favours [.text "Other"]) = .ok false p₁ ∧
      (p₁.engine.selectedChoice step.id).isSome = true ∧ p₁.engine.missingRequired = [1] ∧
      attempt Rehearsal.console false p = .error (.script (.required [1] ["note"])) p' ∧
      p'.console.prompts = ["Choose"] := by
  intro p
  have hplayed : (p.engine.currentStep.any fun step =>
      (stayed (offerChoices Rehearsal.console false step (served favours [.text "Other"]))).any fun p₁ =>
        (p₁.engine.selectedChoice step.id).isSome && p₁.engine.missingRequired == [1]) = true := by
    decide +kernel
  have hfailed : ((complaint (attempt Rehearsal.console false p)).any fun x =>
      x.1 == [1] && (x.2.1 == ["note"] && x.2.2.console.prompts == ["Choose"])) = true := by
    decide +kernel
  obtain ⟨step, hstep, hplayed⟩ := (Option.any_eq_true _ _).1 hplayed
  obtain ⟨p₁, hoffered, hplayed⟩ := (Option.any_eq_true _ _).1 hplayed
  obtain ⟨⟨ids, names, p'⟩, hcomplaint, hfailed⟩ := (Option.any_eq_true _ _).1 hfailed
  simp only [Bool.and_eq_true, beq_iff_eq] at hplayed hfailed
  obtain ⟨rfl, rfl, hprompts⟩ := hfailed
  exact ⟨step, p₁, p', hstep, eq_ok_of_stayed hoffered, hplayed.1, hplayed.2, eq_error_of_complaint hcomplaint,
    hprompts⟩

end Player
end Walkthrough
