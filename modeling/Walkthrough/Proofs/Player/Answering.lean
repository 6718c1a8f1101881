/-
# Answers at the choice prompt

Whatever is typed at the choice prompt either goes back, or keeps the choice that is selected, or selects a choice
of the step, or is refused in a way that another answer can mend (`Settles`). There are two exceptions: digits
that are no numeral (`Unreadable`), and a choice with a number that is too long to be logged (`Burdens`).

| answer, without the blanks around it | what comes of it |
| --- | --- |
| `back` | the step before, or the refusal that there is none |
| nothing | the choice that is selected stays |
| the number of a choice, or else its text | the choice is selected |
| the same, with a number in the choice too long to be logged | a failure that no answer mends, unless it is selected |
| digits, one of them not decimal or too many of them | a failure that no answer mends |
| any other text | the refusal that it names no choice |

Listeners that fail break off what they are told of, so they come in at two places: when the engine goes back, and
when a choice is selected (`Engine.Succeeds`).
-/

import Walkthrough.Proofs.Engine.Objections
import Walkthrough.Proofs.Engine.SavedText
import Walkthrough.Proofs.Number.Digits
import Walkthrough.Proofs.Player.Rehearsed

namespace Walkthrough

/-! ## Digits are no word -/

namespace Text

variable {c : Char} {before cs : List Char}

/-- A character has one code point. -/
theorem eq_toNat_of_ofNat {n : Nat} (h : Char.ofNat n = c) (hc : c ≠ '\x00') : n = c.toNat := by
  by_cases hvalid : n.isValidChar
  · have hchar : Char.ofNat n = Char.ofNatAux n hvalid := dif_pos hvalid
    rw [← h, hchar]
    rfl
  · have hchar : Char.ofNat n = '\x00' := dif_neg hvalid
    exact absurd (h.symm.trans hchar) hc

/-- No character beyond the Latin ones has the letter b for its lower case. -/
theorem not_holds_of_mem_caseRuns : ∀ r ∈ caseRuns, 128 ≤ 98 - r.shift → r.holds (98 - r.shift).toNat = false := by
  simp only [← Array.mem_toList_iff]
  decide +kernel

/-- No digit has it either. -/
theorem lowerChar_ne_of_isDigit (digit : isDigit c = true) : lowerChar c ≠ 'b' := by
  by_cases hlatin : c.toNat < 128
  · have hall : ∀ n < 128, isDigit (Char.ofNat n) = true → lowerChar (Char.ofNat n) ≠ 'b' := by decide +kernel
    have h := hall c.toNat hlatin
    rw [Char.ofNat_toNat] at h
    exact h digit
  · -- Its image would come from the table, where no run leads from a digit to the letter.
    intro h
    have hupper : c.isUpper = false := decide_eq_false fun hletter => by
      have hcode : c.toNat ≤ 90 := UInt32.le_iff_toNat_le.1 hletter.2
      omega
    unfold lowerChar at h
    rw [hupper, if_neg Bool.false_ne_true, if_neg hlatin] at h
    split at h
    · next r hr =>
      have hcode : (c.toNat + r.shift).toNat = 98 := eq_toNat_of_ofNat h (by decide)
      have hfound : 98 - r.shift = c.toNat := by omega
      have hmiss := not_holds_of_mem_caseRuns r (Array.mem_of_find?_eq_some hr)
      rw [hfound, Int.toNat_natCast, Array.find?_some hr] at hmiss
      exact absurd (hmiss (by omega)) Bool.noConfusion
    · rw [h] at hlatin
      exact hlatin (by decide)

theorem lowerChar_of_head?_lowerAfter (h : (lowerAfter before (c :: cs)).head? = some 'b') : lowerChar c = 'b' := by
  unfold lowerAfter at h
  dsimp only at h
  split at h
  · split at h <;> cases h
  · split at h
    · cases h
    · exact Option.some.inj h

end Text

namespace Player

/-- A text of digits does not go back. -/
theorem nameKey_ne_back {s : String} (digits : Text.isDigitText (Text.strip s).toList = true) :
    nameKey s ≠ backCommand := by
  rw [Text.isDigitText, Bool.and_eq_true, Bool.not_eq_true', List.isEmpty_eq_false_iff, List.all_eq_true] at digits
  obtain ⟨hne, hall⟩ := digits
  obtain ⟨c, rest, hcs⟩ := List.exists_cons_of_ne_nil hne
  intro h
  have hword : Text.lowerAfter [] (c :: rest) = "back".toList := by
    rw [← hcs, ← String.toList_ofList (l := Text.lowerAfter [] (Text.strip s).toList)]
    exact congrArg String.toList h
  have hb := Text.lowerChar_of_head?_lowerAfter (congrArg List.head? hword)
  exact Text.lowerChar_ne_of_isDigit (hall c (hcs ▸ List.mem_cons_self)) hb

variable {σ α β : Type} {step : Step} {p p₁ : Player σ} {answer : String}

/-! ## Parts that only talk -/

/-- A part of a player that only talks: where no answers are prepared, it leaves the engine as it is. -/
def Talks (m : Play σ α) : Prop :=
  ∀ (p p' : Player σ) (a : α), p.prepared = none → m p = .ok a p' → p'.engine = p.engine ∧ p'.prepared = none

theorem Talks.pure (a : α) : Talks (pure a : Play σ α) := fun p p' b hp h => by
  cases h
  exact ⟨rfl, hp⟩

theorem Talks.bind {m : Play σ α} {f : α → Play σ β} (hm : Talks m) (hf : ∀ a, Talks (f a)) : Talks (m >>= f) := by
  intro p p' b hp h
  obtain ⟨a, p₁, h₁, h₂⟩ := bind_ok h
  obtain ⟨hengine, hp₁⟩ := hm p p₁ a hp h₁
  obtain ⟨hengine', hp'⟩ := hf a p₁ p' b hp₁ h₂
  exact ⟨hengine'.trans hengine, hp'⟩

theorem talks_get : Talks (get : Play σ (Player σ)) := fun p p' a hp h => by
  cases h
  exact ⟨rfl, hp⟩

/-- Reading off the engine changes nothing. -/
theorem read_ok {f : Engine → Except Error α} {a : α} (h : read f p = .ok a p₁) : f p.engine = .ok a ∧ p₁ = p := by
  unfold read at h
  split at h
  · next hf =>
    cases h
    exact ⟨hf, rfl⟩
  · cases h

/-- What an operation of the engine does in a player. -/
theorem act_ok {m : Act α} {a : α} (h : act m p = .ok a p₁) :
    ∃ e', m p.engine = .ok a e' ∧ p₁ = { p with engine := e' } := by
  unfold act at h
  split at h
  · next e' hm =>
    cases h
    exact ⟨e', hm, rfl⟩
  · cases h

theorem talks_read (f : Engine → Except Error α) : Talks (read f : Play σ α) := fun p p' a hp h => by
  obtain ⟨-, rfl⟩ := read_ok h
  exact ⟨rfl, hp⟩

theorem talks_display (c : Console σ) (text : String) : Talks (display c text) := fun p p' a hp h => by
  cases h
  exact ⟨rfl, hp⟩

/-- Where no answers are prepared, the console is asked. -/
theorem ask_eq_askConsole (hp : p.prepared = none) (c : Console σ) (step : Int) (prompt : String)
    (default : Option String) : ask c step prompt default p = askConsole c prompt default p := by
  unfold ask
  rw [bind_of_ok (show (get : Play σ (Player σ)) p = .ok p p from rfl)]
  simp only [hp]

theorem talks_ask (c : Console σ) (step : Int) (prompt : String) (default : Option String) :
    Talks (ask c step prompt default) := fun p p' a hp h => by
  rw [ask_eq_askConsole hp, askConsole] at h
  split at h <;> cases h
  exact ⟨rfl, hp⟩

theorem talks_showChoices (c : Console σ) (rich : Bool) (step : Int) (selected : Option Int) (choices : List Choice) :
    ∀ n, Talks (showChoices c rich step selected n choices) := by
  induction choices with
  | nil => exact fun _ => .pure none
  | cons choice rest ih =>
    intro n
    unfold showChoices
    exact (talks_read _).bind fun text => (talks_display c _).bind fun _ => (ih _).bind fun later => .pure _

/-! ## The choice prompt -/

/-- **The choice prompt**: the choices of a step are shown, and one of them is asked for. -/
def askChoice (c : Console σ) (rich : Bool) (step : Step) : Play σ Value := do
  let selected := ((← get).engine.selectedChoice step.id).map Choice.id
  display c ""
  let default ← showChoices c rich step.id selected 1 step.choices
  display c ""
  ask c step.id "Choose" default

/-- What is made of the answer. -/
def heed (step : Step) (answer : Value) : Play σ Bool := do
  if ← goBackOn answer then return true
  let text ← read fun _ => written answer
  if Text.isBlank text then return false
  let choice ← read fun _ => answeredChoice step.choices text
  act (Engine.selectChoice step.id choice.id)
  return false

theorem offerChoices_eq (c : Console σ) (rich : Bool) (step : Step) :
    offerChoices c rich step = askChoice c rich step >>= heed step := by
  unfold offerChoices askChoice heed
  simp only [bind_assoc]

theorem talks_askChoice (c : Console σ) (rich : Bool) (step : Step) : Talks (askChoice c rich step) :=
  talks_get.bind fun _ => (talks_display c _).bind fun _ => (talks_showChoices c _ _ _ _ _).bind fun _ =>
    (talks_display c _).bind fun _ => talks_ask c _ _ _

/-! ## What an answer names -/

/-- **Digits that are no numeral**: apart from the blanks around it the answer has nothing but digits, but one of
them is not decimal, or there are more of them than are read. -/
def Unreadable (answer : String) : Prop :=
  let cs := Text.trim answer.toList
  Text.isDigitText cs = true ∧ ((∃ c ∈ cs, Text.isDecimal c = false) ∨ Number.maxDigits < cs.length)

theorem unreadable_iff : Unreadable answer ↔
    Text.isDigitText (Text.strip answer).toList = true ∧ Number.readInt? (Text.strip answer) = none := by
  rw [Unreadable, Text.toList_strip]
  exact and_congr_right fun digits => (Number.readInt?_eq_none_iff digits).symm

theorem answeredChoice_of_unreadable (h : Unreadable answer) (choices : List Choice) :
    ∃ cause, answeredChoice choices answer = .error (.failure (.usage cause)) := by
  obtain ⟨digits, hnone⟩ := unreadable_iff.1 h
  unfold answeredChoice answeredNumber
  simp only [digits, hnone, if_true]
  exact ⟨_, rfl⟩

/-- An answer that is not of digits is looked up among the texts. -/
theorem answeredChoice_of_word (word : Text.isDigitText (Text.strip answer).toList = false) (choices : List Choice) :
    answeredChoice choices answer = match choices.find? fun c => nameKey c.text == nameKey answer with
      | some c => .ok c
      | none => invalidChoice (Text.strip answer) := by
  unfold answeredChoice
  simp only [word, Bool.false_eq_true, if_false]
  rfl

/-- An answer of digits that are a numeral is looked up by its number first. -/
theorem answeredChoice_of_number {n : Int} (digits : Text.isDigitText (Text.strip answer).toList = true)
    (hn : Number.readInt? (Text.strip answer) = some n) (choices : List Choice) :
    answeredChoice choices answer =
      match (if 1 ≤ n then choices[n.toNat - 1]? else none).or
        (choices.find? fun c => nameKey c.text == nameKey answer) with
      | some c => .ok c
      | none => invalidChoice (Text.strip answer) := by
  unfold answeredChoice answeredNumber
  simp only [digits, hn, if_true]
  rfl

/-- Any other answer names a choice of the step, or it is refused because it names none. -/
theorem answeredChoice_cases (readable : ¬Unreadable answer) (choices : List Choice) :
    (∃ c ∈ choices, answeredChoice choices answer = .ok c) ∨
      answeredChoice choices answer = invalidChoice (Text.strip answer) := by
  cases digits : Text.isDigitText (Text.strip answer).toList with
  | false =>
    rw [answeredChoice_of_word digits]
    split
    · next c hc => exact .inl ⟨c, List.mem_of_find?_eq_some hc, rfl⟩
    · exact .inr rfl
  | true =>
    have hread : Number.readInt? (Text.strip answer) ≠ none := fun hnone => readable (unreadable_iff.2 ⟨digits, hnone⟩)
    obtain ⟨n, hn⟩ := Option.ne_none_iff_exists'.1 hread
    rw [answeredChoice_of_number digits hn]
    split
    · next c hc =>
      refine .inl ⟨c, ?_, rfl⟩
      rcases Option.or_eq_some_iff.1 hc with hnumber | ⟨-, htext⟩
      · split at hnumber
        · exact List.mem_of_getElem? hnumber
        · cases hnumber
      · exact List.mem_of_find?_eq_some htext
    · exact .inr rfl

/-- What an answer names is a choice of the step. -/
theorem mem_of_answeredChoice {choices : List Choice} {c : Choice} (h : answeredChoice choices answer = .ok c) :
    c ∈ choices := by
  have readable : ¬Unreadable answer := fun hunreadable => by
    obtain ⟨cause, hcause⟩ := answeredChoice_of_unreadable hunreadable choices
    rw [hcause] at h
    cases h
  rcases answeredChoice_cases readable choices with ⟨c', hmem, hchoice⟩ | hnone
  · obtain rfl : c' = c := Except.ok.inj (hchoice.symm.trans h)
    exact hmem
  · rw [hnone] at h
    cases h

/-! ## What comes of an answer -/

theorem heed_of_back (h : nameKey answer = backCommand) (step : Step) :
    heed step (.text answer) = act Engine.back >>= fun _ => (pure true : Play σ Bool) := by
  unfold heed goBackOn isBack
  simp only [h, beq_self_eq_true, if_true, bind_assoc, pure_bind]

/-- What is made of an answer that does not go back. -/
theorem heed_of_forward (h : nameKey answer ≠ backCommand) (step : Step) (p : Player σ) :
    heed step (.text answer) p = if Text.isBlank answer then .ok false p
      else match answeredChoice step.choices answer with
        | .error err => .error err p
        | .ok choice => (act (Engine.selectChoice step.id choice.id) >>= fun _ => pure false : Play σ Bool) p := by
  have hback : isBack (.text answer) = false := beq_eq_false_iff_ne.2 h
  unfold heed goBackOn
  simp only [hback, Bool.false_eq_true, if_false, pure_bind]
  rw [bind_of_ok (show read (fun _ => written (.text answer)) p = .ok answer p from rfl)]
  split
  · rfl
  · rw [bind_eq, read]
    cases answeredChoice step.choices answer <;> rfl

/-- **What may come of an answer** at the choice prompt of a step. -/
inductive Settles (step : Step) (p : Player σ) : EStateM.Result Error (Player σ) Bool → Prop
  /-- It goes back. -/
  | wentBack {previous : Int} {p' : Player σ} (link : p.engine.previous = some previous)
      (moved : p'.engine.current = some previous) : Settles step p (.ok true p')
  /-- The choice that is selected stays. -/
  | kept : Settles step p (.ok false p)
  /-- A choice of the step is selected. -/
  | selected {c : Choice} {p' : Player σ} (offered : c ∈ step.choices)
      (noted : p'.engine.selected.get? step.id = some c.id) : Settles step p (.ok false p')
  /-- Another answer can mend it, and nothing happened. -/
  | refused {err : Error} (mendable : err.isMendable = true) : Settles step p (.error err p)
  /-- A listener fails. -/
  | objected {err : Error} {p' : Player σ} (objects : p.engine.Objects err) : Settles step p (.error err p')

theorem act_of_ok {m : Act α} {a : α} {e' : Engine} (h : m p.engine = .ok a e') :
    act m p = .ok a { p with engine := e' } := by
  unfold act
  rw [h]

theorem act_of_error {m : Act α} {err : Error} {e' : Engine} (h : m p.engine = .error err e') :
    act m p = .error err { p with engine := e' } := by
  unfold act
  rw [h]

/-- **An answer that names a choice with a number that is too long to be logged**, and that is not selected. -/
def Burdens (e : Engine) (step : Step) (answer : String) : Prop :=
  nameKey answer ≠ backCommand ∧ Text.isBlank answer = false ∧
    ∃ c, answeredChoice step.choices answer = .ok c ∧ e.isBurdened step.id c = true

/-- Operations that only listeners break off, in a player. -/
theorem settles_of_succeeds {m : Act α} {post : α → Engine → Prop} {b : Bool} (h : Engine.Succeeds m p.engine post)
    (hpost : ∀ a e', post a e' → Settles step p (.ok b { p with engine := e' })) :
    Settles step p ((act m >>= fun _ => pure b : Play σ Bool) p) := by
  rcases h with ⟨a, e', hm, ha⟩ | ⟨err, e', hm, hobjects⟩
  · rw [bind_of_ok (act_of_ok hm)]
    exact hpost a e' ha
  · rw [bind_eq, act_of_error hm]
    exact .objected hobjects

section Heeding

variable (r : p.engine.Ready) (sound : p.engine.script.Sound) (hstep : p.engine.currentStep = some step)

include r sound hstep

/-- Any answer but an unreadable one settles the prompt, if it needs nothing written that is too long. -/
theorem heed_settles (readable : ¬Unreadable answer) (light : ¬Burdens p.engine step answer) :
    Settles step p (heed step (.text answer) p) := by
  obtain ⟨id, hc, hfound⟩ := Option.bind_eq_some_iff.1 hstep
  obtain rfl : step.id = id := sound.keyed hfound
  by_cases hback : nameKey answer = backCommand
  · rw [heed_of_back hback]
    cases hprevious : p.engine.previous with
    | some previous =>
      exact settles_of_succeeds (Engine.back_succeeds hprevious) fun _ _ hmoved => .wentBack hprevious hmoved
    | none =>
      rw [bind_eq, act_of_error (Engine.back_of_none hc hprevious)]
      exact .refused rfl
  · rw [heed_of_forward hback]
    split
    · exact .kept
    next hfilled =>
      rcases answeredChoice_cases readable step.choices with ⟨c, hmem, hchoice⟩ | hnone
      · rw [hchoice]
        have hlight : p.engine.isBurdened step.id c = false := by
          rw [Bool.eq_false_iff]
          exact fun h => light ⟨hback, Bool.eq_false_iff.2 hfilled, c, hchoice, h⟩
        exact settles_of_succeeds (Engine.selectChoice_succeeds r sound hc (sound.choice?_of_mem hfound hmem) hlight)
          fun _ _ hnoted => .selected hmem hnoted
      · rw [hnone]
        exact .refused rfl

/-- A choice that has to be written and cannot be logged breaks off the prompt. -/
theorem heed_of_burdens (h : Burdens p.engine step answer) : ∃ err p', heed step (.text answer) p = .error err p' ∧
    (err = .tooManyDigits ∨ p.engine.Objects err) := by
  obtain ⟨hback, hfilled, c, hchoice, hburdened⟩ := h
  obtain ⟨id, hc, hfound⟩ := Option.bind_eq_some_iff.1 hstep
  obtain rfl : step.id = id := sound.keyed hfound
  obtain ⟨err, e', hselect, hcause⟩ := Engine.selectChoice_breaksOff r sound hc
    (sound.choice?_of_mem hfound (mem_of_answeredChoice hchoice)) hburdened
  rw [heed_of_forward hback, hfilled, hchoice]
  refine ⟨err, { p with engine := e' }, ?_, hcause⟩
  dsimp only
  rw [if_neg Bool.false_ne_true, bind_eq, act_of_error hselect]

end Heeding

theorem heed_of_unreadable (h : Unreadable answer) (step : Step) (p : Player σ) :
    ∃ cause, heed step (.text answer) p = .error (.failure (.usage cause)) p := by
  obtain ⟨cause, hcause⟩ := answeredChoice_of_unreadable h step.choices
  have digits := (unreadable_iff.1 h).1
  have filled : Text.isBlank answer = false := by
    rw [Bool.eq_false_iff]
    intro hblank
    rw [Text.isBlank_iff.1 hblank] at digits
    cases digits
  rw [heed_of_forward (nameKey_ne_back digits), filled, hcause]
  exact ⟨cause, rfl⟩

/-- **Two kinds of answers crash the player.** At any step, in any state that an engine reaches, whatever its
listeners do: once the choices are shown and an answer was typed, the answer goes back, keeps the choice that is
selected, selects a choice of the step, or is refused in a way that another answer can mend, unless a listener
fails. If it has nothing but digits, one of them not decimal or more of them than are read, it fails instead in a
way that no answer can mend. So it does if it names a choice that is not selected, with a number in it that is too
long to be logged, where no listener fails before. -/
theorem answer_settles {e₀ : Engine} (fresh : e₀.Fresh) (requests : List Request) (c : Console σ) (rich : Bool)
    (reached : p.engine = e₀.serve requests) (interactive : p.prepared = none)
    (current : p.engine.currentStep = some step) (typed : askChoice c rich step p = .ok (.text answer) p₁) :
    p₁.engine = p.engine ∧
      (¬Unreadable answer → ¬Burdens p.engine step answer → Settles step p₁ (offerChoices c rich step p)) ∧
      (Unreadable answer → ∃ cause, offerChoices c rich step p = .error (.failure (.usage cause)) p₁) ∧
      (Burdens p.engine step answer → ∃ err p', offerChoices c rich step p = .error err p' ∧
        (err = .tooManyDigits ∨ p.engine.Objects err)) := by
  obtain ⟨hengine, -⟩ := talks_askChoice c rich step p p₁ _ interactive typed
  obtain ⟨hk, hr⟩ := Engine.serve_keeps fresh.ready requests
  rw [← reached, ← hengine] at hk hr
  have sound : p₁.engine.script.Sound := fresh.built.sound.of_freeze_eq hk.script
  rw [offerChoices_eq, bind_of_ok typed, ← hengine]
  rw [← hengine] at current
  exact ⟨rfl, heed_settles hr sound current, fun unreadable => heed_of_unreadable unreadable step p₁,
    heed_of_burdens hr sound current⟩

/-! ## A menu -/

/-- A page that offers choices, and a second one. -/
def menu (choices : List ChoiceDraft) : Script :=
  let page := Engine.blankDiary.withSay "Menu" { id := .int 1, first := true, rules := [(none, .int 2)] }
  let page := choices.foldl (fun s choice => s.added (s.addChoice (.int 1) choice)) page
  page.withSay "Thanks" { id := .int 2 }

theorem menu_built (choices : List ChoiceDraft) : (menu choices).Built := by
  have hchoices : ∀ s : Script, s.Built →
      (choices.foldl (fun s choice => s.added (s.addChoice (.int 1) choice)) s).Built := by
    induction choices with
    | nil => exact fun s b => b
    | cons choice rest ih => exact fun s b => ih _ (b.added fun _ _ h => b.addChoice h)
  exact (hchoices _ (Engine.blankDiary_built.withSay _ _)).withSay _ _

/-- A player whose engine was asked some things, with what is typed in. -/
def menuPlayer (choices : List ChoiceDraft) (requests : List Request) (answers : List Value) : Player Rehearsal where
  engine := (Engine.ofScript (menu choices) .empty).serve requests
  console := { answers }

theorem engine_menuPlayer (choices : List ChoiceDraft) (requests : List Request) (answers : List Value) :
    (menuPlayer choices requests answers).engine = (Engine.ofScript (menu choices) .empty).serve requests := rfl

theorem menu_fresh (choices : List ChoiceDraft) : (Engine.ofScript (menu choices) .empty).Fresh :=
  Engine.ofScript_fresh (menu_built choices) .empty

/-- The text that was answered, and the player after it. -/
def answered : EStateM.Result Error (Player σ) Value → Option (String × Player σ)
  | .ok (.text s) p => some (s, p)
  | _ => none

theorem eq_ok_of_answered {r : EStateM.Result Error (Player σ) Value} {s : String} (h : answered r = some (s, p)) :
    r = .ok (.text s) p := by
  unfold answered at h
  split at h
  · cases h
    rfl
  · cases h

/-- An answer is given at the prompt of a menu. -/
theorem exists_asked {q : Player Rehearsal} {s : String} (h : (q.engine.currentStep.any fun step =>
      (answered (askChoice Rehearsal.console false step q)).any fun x => x.1 == s) = true) :
    ∃ step q₁, q.engine.currentStep = some step ∧ askChoice Rehearsal.console false step q = .ok (.text s) q₁ := by
  obtain ⟨step, hstep, hasked⟩ := (Option.any_eq_true _ _).1 h
  obtain ⟨⟨t, q₁⟩, hanswered, heq⟩ := (Option.any_eq_true _ _).1 hasked
  obtain rfl : t = s := by simpa using heq
  exact ⟨step, q₁, hstep, eq_ok_of_answered hanswered⟩

/-- Two drinks. -/
def drinks : List ChoiceDraft :=
  [{ id := .int 1, text := "Tea", values := .ofList [(1, .text "tea")] },
    { id := .int 2, text := "Coffee", values := .ofList [(1, .text "coffee")] }]

/-- Everything in the drinks can be logged. -/
theorem drinks_light {answers : List Value} {choice : Choice}
    (hstep : (menuPlayer drinks [.perform .start] answers).engine.currentStep = some step)
    (hmem : choice ∈ step.choices) :
    (menuPlayer drinks [.perform .start] answers).engine.isBurdened step.id choice = false := by
  have hall : (((Engine.ofScript (menu drinks) .empty).serve [.perform .start]).currentStep.all fun step =>
      step.choices.all fun c =>
        !((Engine.ofScript (menu drinks) .empty).serve [.perform .start]).isBurdened step.id c) = true := by
    decide +kernel
  rw [engine_menuPlayer] at hstep ⊢
  rw [hstep, Option.all_some, List.all_eq_true] at hall
  exact Bool.not_eq_true' _ ▸ hall choice hmem

/-- Tea can be had by its name. -/
theorem tea_settles :
    let p := menuPlayer drinks [.perform .start] [.text "tea"]
    ∃ step p₁, p.engine.currentStep = some step ∧ askChoice Rehearsal.console false step p = .ok (.text "tea") p₁ ∧
      Settles step p₁ (offerChoices Rehearsal.console false step p) := by
  intro p
  obtain ⟨step, p₁, hstep, htyped⟩ := exists_asked (q := p) (s := "tea") (by decide +kernel)
  obtain ⟨-, hsettles, -⟩ := answer_settles (menu_fresh drinks) [.perform .start] Rehearsal.console false
    (engine_menuPlayer drinks _ _) rfl hstep htyped
  refine ⟨step, p₁, hstep, htyped, hsettles (fun h => ?_) fun ⟨_, _, c, hchoice, hburdened⟩ => ?_⟩
  · have hdigits : Text.isDigitText (Text.trim "tea".toList) = false := by decide +kernel
    rw [h.1] at hdigits
    cases hdigits
  · have hlight := drinks_light hstep (mem_of_answeredChoice hchoice)
    exact Bool.false_ne_true (hlight.symm.trans hburdened)

/-- **A superscript crashes the player**: it counts as a digit and is no numeral. No listener is there. -/
theorem superscript_crashes :
    let p := menuPlayer drinks [.perform .start] [.text "²"]
    ∃ step p₁, p.engine.currentStep = some step ∧ askChoice Rehearsal.console false step p = .ok (.text "²") p₁ ∧
      p₁.engine.bus.subscriptions = [] ∧ ¬Settles step p₁ (offerChoices Rehearsal.console false step p) := by
  intro p
  obtain ⟨step, p₁, hstep, htyped⟩ := exists_asked (q := p) (s := "²") (by decide +kernel)
  have hsilent : p₁.engine.bus.subscriptions = [] := by
    rw [(talks_askChoice _ false step _ _ _ rfl htyped).1]
    decide +kernel
  have hunreadable : Unreadable "²" := ⟨by decide +kernel, .inl ⟨'²', by decide, by decide +kernel⟩⟩
  obtain ⟨cause, hcrash⟩ := heed_of_unreadable hunreadable step p₁
  refine ⟨step, p₁, hstep, htyped, hsilent, fun hsettles => ?_⟩
  rw [offerChoices_eq, bind_of_ok htyped, hcrash] at hsettles
  cases hsettles with
  | refused mendable => cases mendable
  | objected objects =>
    obtain ⟨s, hs, -⟩ := objects
    rw [hsilent] at hs
    cases hs

end Player
end Walkthrough
