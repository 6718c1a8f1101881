/-
# Options by what is shown of them

A choice is shown with its text filled in, and an answer is compared with the texts as they were written.

| | text of a choice |
| --- | --- |
| what is shown | the values of properties stand in place of the tags (`Engine.choiceText`) |
| what an answer is compared with | the tags stand (`choiceByText?`) |

So typing what is shown of a choice selects it exactly if it is the first choice that is written like this
(`WrittenFirst`), unless it has a number that is too long to be logged (`Engine.isBurdened`). It is the first one if
no choice of the step has a tag, and the choices are shown differently.
-/

import Walkthrough.Proofs.Player.Answering

namespace Walkthrough

/-- A template without tags is filled in already. -/
theorem Template.substitute_of_untagged {marks : Marks} {template : String} (h : tags marks template = [])
    (lookup : Int → Option Value) : substitute marks false lookup template = .ok template := by
  unfold substitute
  rw [h]
  exact congrArg Except.ok String.ofList_toList

namespace Player

variable {σ : Type} {step : Step} {choice : Choice} {p p₁ : Player σ} {shown : String}

/-- The first of several choices that is written like a text, but for case and the blanks around it. -/
def WrittenFirst (choices : List Choice) (text : String) (choice : Choice) : Prop :=
  ∃ before after, choices = before ++ choice :: after ∧ nameKey choice.text = nameKey text ∧
    ∀ c ∈ before, nameKey c.text ≠ nameKey text

/-- The choice prompt ends well, and a choice is selected then. -/
def Selects (r : EStateM.Result Error (Player σ) Bool) (step choice : Int) : Prop :=
  ∃ p', r = .ok false p' ∧ p'.engine.selected.get? step = some choice

/-- Nothing is selected by a prompt that breaks off. -/
theorem not_selects_of_error {r : EStateM.Result Error (Player σ) Bool} {err : Error} {id choice : Int}
    (h : r = .error err p) : ¬Selects r id choice := by
  rintro ⟨p', hp', -⟩
  rw [h] at hp'
  cases hp'

/-- What is shown of the choices of a step, but for case and the blanks around it. -/
def shownKeys (e : Engine) (step : Step) : List (Option String) :=
  step.choices.map fun c => (e.choiceText step.id c.id false).toOption.map nameKey

theorem find?_eq_some_iff_writtenFirst {choices : List Choice} {text : String} :
    choices.find? (fun c => nameKey c.text == nameKey text) = some choice ↔ WrittenFirst choices text choice := by
  rw [List.find?_eq_some_iff_append, WrittenFirst]
  simp only [beq_iff_eq, Bool.not_eq_true', beq_eq_false_iff_ne]
  constructor
  · rintro ⟨hkey, before, after, hsplit, hbefore⟩
    exact ⟨before, after, hsplit, hkey, hbefore⟩
  · rintro ⟨before, after, hsplit, hkey, hbefore⟩
    exact ⟨hkey, before, after, hsplit, hbefore⟩

/-! ## The choice that an answer names -/

/-- With listeners that do not fail, a choice of the current step is selected once an answer names it, if its
values can be logged. -/
theorem heed_of_choice (r : p.engine.Ready) (sound : p.engine.script.Sound) (quiet : p.engine.Quiet)
    (hstep : p.engine.currentStep = some step) (hback : nameKey shown ≠ backCommand)
    (filled : Text.isBlank shown = false) (hmem : choice ∈ step.choices)
    (h : answeredChoice step.choices shown = .ok choice) (light : p.engine.isBurdened step.id choice = false) :
    Selects (heed step (.text shown) p) step.id choice.id := by
  obtain ⟨id, hc, hfound⟩ := Option.bind_eq_some_iff.1 hstep
  obtain rfl : step.id = id := sound.keyed hfound
  rw [heed_of_forward hback, filled, h]
  rcases Engine.selectChoice_succeeds r sound hc (sound.choice?_of_mem hfound hmem) light with
    ⟨u, e', hselect, hnoted⟩ | ⟨err, e', hselect, l, hl, hreact⟩
  · exact ⟨{ p with engine := e' }, bind_of_ok (act_of_ok hselect), hnoted⟩
  · rw [Engine.Listener.react, quiet l hl] at hreact
    cases hreact

/-- An answer that names no choice is refused. -/
theorem heed_of_unnamed (hback : nameKey shown ≠ backCommand) (filled : Text.isBlank shown = false)
    (word : Text.isDigitText (Text.strip shown).toList = false)
    (unnamed : ∀ c ∈ step.choices, nameKey c.text ≠ nameKey shown) (p : Player σ) :
    heed step (.text shown) p = .error (.script (.value (.invalidChoice (Text.strip shown)))) p := by
  have hnone : step.choices.find? (fun c => nameKey c.text == nameKey shown) = none :=
    List.find?_eq_none.2 fun c hc heq => unnamed c hc (beq_iff_eq.1 heq)
  rw [heed_of_forward hback, filled, answeredChoice_of_word word, hnone]
  rfl

/-- **An answer selects a choice** exactly if it is the first one that is written like this, and nothing in it is too
long to be logged. -/
theorem selects_heed_iff (r : p.engine.Ready) (sound : p.engine.script.Sound) (quiet : p.engine.Quiet)
    (hstep : p.engine.currentStep = some step) (hback : nameKey shown ≠ backCommand)
    (filled : Text.isBlank shown = false) (word : Text.isDigitText (Text.strip shown).toList = false)
    (offered : choice ∈ step.choices) : Selects (heed step (.text shown) p) step.id choice.id ↔
      WrittenFirst step.choices shown choice ∧ p.engine.isBurdened step.id choice = false := by
  rw [← find?_eq_some_iff_writtenFirst]
  cases hfind : step.choices.find? fun c => nameKey c.text == nameKey shown with
  | none =>
    have hunnamed : ∀ c ∈ step.choices, nameKey c.text ≠ nameKey shown := fun c hc heq =>
      List.find?_eq_none.1 hfind c hc (beq_iff_eq.2 heq)
    exact iff_of_false (not_selects_of_error (heed_of_unnamed hback filled word hunnamed p))
      fun h => Option.some_ne_none choice h.1.symm
  | some c =>
    have hmem := List.mem_of_find?_eq_some hfind
    have hnamed : answeredChoice step.choices shown = .ok c := by
      rw [answeredChoice_of_word word, hfind]
    cases hburdened : p.engine.isBurdened step.id c with
    | true =>
      obtain ⟨err, p₂, hfailed, -⟩ := heed_of_burdens r sound hstep ⟨hback, filled, c, hnamed, hburdened⟩
      refine iff_of_false (not_selects_of_error hfailed) fun ⟨heq, hlight⟩ => ?_
      obtain rfl := Option.some.inj heq
      exact Bool.false_ne_true (hlight.symm.trans hburdened)
    | false =>
      obtain ⟨p', hp', hnoted⟩ := heed_of_choice r sound quiet hstep hback filled hmem hnamed hburdened
      constructor
      · rintro ⟨q, hq, hnoted'⟩
        obtain rfl : p' = q := by
          rw [hp'] at hq
          cases hq
          rfl
        -- Two choices of a step have different numbers.
        obtain ⟨id, -, hfound⟩ := Option.bind_eq_some_iff.1 hstep
        have hid : c.id = choice.id := Option.some.inj (hnoted.symm.trans hnoted')
        obtain rfl : c = choice := Option.some.inj
          ((sound.choice?_of_mem hfound hmem).symm.trans (hid ▸ sound.choice?_of_mem hfound offered))
        exact ⟨rfl, hburdened⟩
      · rintro ⟨heq, -⟩
        cases heq
        exact ⟨p', hp', hnoted⟩

/-! ## What is shown -/

/-- A text with something else than digits in it is neither a number nor blank. -/
theorem word_of_mem_trim (word : ∃ c ∈ Text.trim shown.toList, Text.isDigit c = false) :
    Text.isDigitText (Text.strip shown).toList = false ∧ Text.isBlank shown = false := by
  obtain ⟨c, hc, hdigit⟩ := word
  constructor
  · rw [Text.toList_strip, Text.isDigitText, Bool.and_eq_false_iff, List.all_eq_false]
    exact .inr ⟨c, hc, by rw [hdigit]; exact Bool.false_ne_true⟩
  · rw [Bool.eq_false_iff]
    intro hblank
    have hempty := congrArg String.toList (Text.isBlank_iff.1 hblank)
    rw [Text.toList_strip] at hempty
    rw [hempty] at hc
    cases hc

/-- A choice without tags is shown as it is written. -/
theorem choiceText_of_untagged {e : Engine} (sound : e.script.Sound) {id : Int} (hfound : e.script.step? id = some step)
    (hmem : choice ∈ step.choices) (untagged : Template.tags e.marks choice.text = []) :
    e.choiceText step.id choice.id false = .ok choice.text := by
  obtain rfl : step.id = id := sound.keyed hfound
  unfold Engine.choiceText
  rw [sound.choice?_of_mem hfound hmem]
  exact Template.substitute_of_untagged untagged _

/-- Where choices have no tags and are shown differently, each is the first that is written as it is shown. -/
theorem writtenFirst_of_untagged {e : Engine} (sound : e.script.Sound) {id : Int}
    (hfound : e.script.step? id = some step) (offered : choice ∈ step.choices)
    (untagged : ∀ c ∈ step.choices, Template.tags e.marks c.text = []) (distinct : (shownKeys e step).Nodup) :
    WrittenFirst step.choices choice.text choice := by
  have hkeys : shownKeys e step = step.choices.map fun c => some (nameKey c.text) :=
    List.map_congr_left fun c hc => by
      rw [choiceText_of_untagged sound hfound hc (untagged c hc)]
      rfl
  obtain ⟨before, after, hsplit⟩ := List.append_of_mem offered
  rw [hkeys, hsplit, List.map_append, List.map_cons, List.nodup_append] at distinct
  refine ⟨before, after, hsplit, rfl, fun c hc heq => ?_⟩
  exact distinct.2.2 _ (List.mem_map_of_mem hc) _ List.mem_cons_self (congrArg some heq)

/-- **Typing what is shown of a choice** selects it exactly if it is the first choice that is written like this, and
it is selected already or no number in it is too long to be logged. If none is written like this, the answer is
refused and nothing happens. So a choice that can be logged is selected if no choice of the step has a tag and they
are shown differently. This holds in any state that an engine reaches, with listeners that do not fail. -/
theorem shown_selects_iff {e₀ : Engine} (fresh : e₀.Fresh) (quiet : e₀.Quiet) (requests : List Request)
    (c : Console σ) (reached : p.engine = e₀.serve requests) (interactive : p.prepared = none)
    (current : p.engine.currentStep = some step) (offered : choice ∈ step.choices)
    (display : p.engine.choiceText step.id choice.id false = .ok shown)
    (word : ∃ c ∈ Text.trim shown.toList, Text.isDigit c = false) (forward : nameKey shown ≠ backCommand)
    (typed : askChoice c false step p = .ok (.text shown) p₁) :
    (Selects (offerChoices c false step p) step.id choice.id ↔
      WrittenFirst step.choices shown choice ∧ p.engine.isBurdened step.id choice = false) ∧
    ((∀ other ∈ step.choices, nameKey other.text ≠ nameKey shown) →
      offerChoices c false step p = .error (.script (.value (.invalidChoice (Text.strip shown)))) p₁) ∧
    ((∀ other ∈ step.choices, Template.tags p.engine.marks other.text = []) → (shownKeys p.engine step).Nodup →
      p.engine.isBurdened step.id choice = false → Selects (offerChoices c false step p) step.id choice.id) := by
  obtain ⟨hengine, -⟩ := talks_askChoice c false step p p₁ _ interactive typed
  obtain ⟨hk, hr⟩ := Engine.serve_keeps fresh.ready requests
  obtain ⟨hdigits, hfilled⟩ := word_of_mem_trim word
  rw [← reached] at hk hr
  have sound : p.engine.script.Sound := fresh.built.sound.of_freeze_eq hk.script
  have hiff : Selects (offerChoices c false step p) step.id choice.id ↔
      WrittenFirst step.choices shown choice ∧ p.engine.isBurdened step.id choice = false := by
    rw [offerChoices_eq, bind_of_ok typed]
    rw [← hengine] at hr sound hk current ⊢
    exact selects_heed_iff hr sound (hk.quiet quiet) current forward hfilled hdigits offered
  refine ⟨hiff, fun unnamed => ?_, fun untagged distinct light => hiff.2 ⟨?_, light⟩⟩
  · rw [offerChoices_eq, bind_of_ok typed]
    exact heed_of_unnamed forward hfilled hdigits unnamed p₁
  · obtain ⟨id, -, hfound⟩ := Option.bind_eq_some_iff.1 current
    rw [choiceText_of_untagged sound hfound offered (untagged choice offered)] at display
    cases display
    exact writtenFirst_of_untagged sound hfound offered untagged distinct

/-- A choice of the current step that is shown in a certain way. -/
theorem exists_shown {e : Engine} {s : String} (hstep : e.currentStep = some step)
    (h : (e.currentStep.any fun step =>
      step.choices.any fun c => (e.choiceText step.id c.id false).toOption == some s) = true) :
    ∃ choice ∈ step.choices, e.choiceText step.id choice.id false = .ok s := by
  rw [hstep, Option.any_some, List.any_eq_true] at h
  obtain ⟨choice, hmem, hshown⟩ := h
  exact ⟨choice, hmem, ok_of_toOption (beq_iff_eq.1 hshown)⟩

/-- Tea can be had by what is shown of it. -/
theorem tea_selected :
    let p := menuPlayer drinks [.perform .start] [.text "Tea"]
    ∃ step p₁, ∃ choice ∈ step.choices, p.engine.currentStep = some step ∧
      p.engine.choiceText step.id choice.id false = .ok "Tea" ∧
      askChoice Rehearsal.console false step p = .ok (.text "Tea") p₁ ∧
      Selects (offerChoices Rehearsal.console false step p) step.id choice.id := by
  intro p
  obtain ⟨step, p₁, hstep, htyped⟩ := exists_asked (q := p) (s := "Tea") (by decide +kernel)
  obtain ⟨choice, hmem, hshown⟩ := exists_shown hstep (s := "Tea") (by decide +kernel)
  have hplain : (p.engine.currentStep.all fun step =>
      step.choices.all fun c => (Template.tags p.engine.marks c.text).isEmpty) = true := by decide +kernel
  have hdistinct : ∀ step ∈ p.engine.currentStep, (shownKeys p.engine step).Nodup := by decide +kernel
  rw [hstep, Option.all_some, List.all_eq_true] at hplain
  obtain ⟨-, -, hselects⟩ := shown_selects_iff (menu_fresh drinks) (Engine.ofScript_quiet _ _) [.perform .start]
    Rehearsal.console (engine_menuPlayer drinks _ _) rfl hstep hmem hshown ⟨'T', by decide, by decide +kernel⟩
    (by decide +kernel) htyped
  exact ⟨step, p₁, choice, hmem, hstep, hshown, htyped,
    hselects (fun other hother => List.isEmpty_iff.1 (hplain other hother)) (hdistinct step hstep)
      (drinks_light hstep hmem)⟩

/-- A choice with a tag, and another one. -/
def paints : List ChoiceDraft :=
  [{ id := .int 1, text := "Paint \x7b\x7b1\x7d\x7d", values := .ofList [(3, .bool true)] },
    { id := .int 2, text := "Leave", values := .ofList [(3, .bool false)] }]

/-- **A choice with a tag cannot be had by what is shown of it**, although the other one is shown differently. -/
theorem paint_not_selected :
    let p := menuPlayer paints [.perform .start, .perform (.setValue 1 (.text "red"))] [.text "Paint red"]
    p.engine.Quiet ∧ ∃ step p₁, ∃ choice ∈ step.choices, p.engine.currentStep = some step ∧
      (shownKeys p.engine step).Nodup ∧ p.engine.choiceText step.id choice.id false = .ok "Paint red" ∧
      (∃ c ∈ Text.trim "Paint red".toList, Text.isDigit c = false) ∧ nameKey "Paint red" ≠ backCommand ∧
      askChoice Rehearsal.console false step p = .ok (.text "Paint red") p₁ ∧
      ¬Selects (offerChoices Rehearsal.console false step p) step.id choice.id := by
  intro p
  obtain ⟨step, p₁, hstep, htyped⟩ := exists_asked (q := p) (s := "Paint red") (by decide +kernel)
  obtain ⟨choice, hmem, hshown⟩ := exists_shown hstep (s := "Paint red") (by decide +kernel)
  have hsilent : p.engine.bus.subscriptions = [] := by decide +kernel
  have hdistinct : ∀ step ∈ p.engine.currentStep, (shownKeys p.engine step).Nodup := by decide +kernel
  have hrefused : (p.engine.currentStep.all fun step =>
      match offerChoices Rehearsal.console false step p with
      | .ok _ _ => false
      | .error _ _ => true) = true := by decide +kernel
  refine ⟨fun s hs => absurd (hsilent ▸ hs) List.not_mem_nil, step, p₁, choice, hmem, hstep, hdistinct step hstep,
    hshown, ⟨'P', by decide, by decide +kernel⟩, by decide +kernel, htyped, ?_⟩
  rintro ⟨p', hselected, -⟩
  rw [hstep, Option.all_some, hselected] at hrefused
  cases hrefused

end Player
end Walkthrough
