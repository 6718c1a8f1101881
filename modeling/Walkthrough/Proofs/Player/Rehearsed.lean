/-
# Prepared answers, typed in

A run that took its answers from prepared ones can be played again by hand. What was taken is on record
(`Player.taken`): typed in at the prompts in the same order, with an empty line where nothing was left, it
leads through the same run.

| | with prepared answers | at the console |
| --- | --- | --- |
| a question takes | the next answer of the step | the next answer of all |
| nothing is left | the default | an empty line, so the default |
| a failed attempt | ends the run | is shown, and the step tried again |

The two agree because each part of a player `Replays`, and parts that replay can be put together
(`Replays.bind`). A failed attempt does not come up: it would have ended the run with prepared answers.
-/

import Walkthrough.Player.Rehearsal
import Walkthrough.Player.Run
import Walkthrough.Proofs.Engine.Run
import Walkthrough.Proofs.OrderedMap

namespace Walkthrough
namespace Player

variable {α β : Type} {p p' q : Player Rehearsal}

/-! ## Accounts of answers -/

/-- The answers under a key. -/
def answersAt (prepared : OrderedMap String (List Value)) (key : String) : List Value :=
  (prepared.get? key).getD []

/-- What was taken under a key, oldest first. -/
def takenAt (taken : List (String × Value)) (key : String) : List Value :=
  (taken.filter fun x => x.1 == key).map Prod.snd

/-- **The account of a key**: what was given is what was taken and what is left, and nothing is left once
nothing could be taken. -/
def Accounts (given left taken : List Value) : Prop :=
  ∃ used missed, given = used ++ left ∧ taken = used ++ List.replicate missed .unset ∧ (missed ≠ 0 → left = [])

/-- A player with prepared answers, all of them texts, and what is left of them. -/
structure Headless (given : OrderedMap String (List Value)) (p : Player Rehearsal) : Prop where
  texts : ∀ key, ∀ v ∈ answersAt given key, ∃ t, v = .text t
  accounts : ∃ left, p.prepared = some left ∧
    ∀ key, Accounts (answersAt given key) (answersAt left key) (takenAt p.taken key)

/-- **The same run at the console** as with prepared answers: the same engine, and the same was shown. -/
structure Twin (p q : Player Rehearsal) : Prop where
  engine : q.engine = p.engine
  unprepared : q.prepared = none
  shown : q.console.shown = p.console.shown

/-- What is typed in for an answer: the answer, and an empty line if there was none. -/
def typed : Value → Value
  | .unset => .text ""
  | v => v

/-- What is typed in for answers. -/
def typedIn (taken : List (String × Value)) : List Value := taken.map fun x => typed x.2

/-- **A part of a player that can be replayed**: if it ends well with prepared answers, then it ends the same
at a console where the answers that it took are typed in, one for each prompt. If it fails, the player still
has its prepared answers. -/
structure Replays (m : Play Rehearsal α) : Prop where
  ends : ∀ {given : OrderedMap String (List Value)} {p p' : Player Rehearsal} {a : α}, Headless given p →
    m p = .ok a p' → Headless given p' ∧ ∃ answers, p'.taken = p.taken ++ answers ∧
      ∀ {q : Player Rehearsal} {rest : List Value}, Twin p q → q.console.answers = typedIn answers ++ rest →
        ∃ q', m q = .ok a q' ∧ Twin p' q' ∧ q'.console.answers = rest ∧
          q'.console.prompts.length = q.console.prompts.length + answers.length
  fails : ∀ {given : OrderedMap String (List Value)} {p p' : Player Rehearsal} {err : Error}, Headless given p →
    m p = .error err p' → p'.prepared.isSome = true

/-! ## Putting parts together -/

theorem bind_eq {σ : Type} (m : Play σ α) (f : α → Play σ β) (p : Player σ) :
    (m >>= f) p = match m p with
      | .ok a p' => f a p'
      | .error err p' => .error err p' := by
  change EStateM.bind m f p = _
  unfold EStateM.bind
  cases m p <;> rfl

theorem bind_ok {σ : Type} {m : Play σ α} {f : α → Play σ β} {p p' : Player σ} {b : β}
    (h : (m >>= f) p = .ok b p') : ∃ a p₁, m p = .ok a p₁ ∧ f a p₁ = .ok b p' := by
  rw [bind_eq] at h
  split at h
  · next a p₁ hm => exact ⟨a, p₁, hm, h⟩
  · cases h

theorem bind_of_ok {σ : Type} {m : Play σ α} {f : α → Play σ β} {p p₁ : Player σ} {a : α}
    (h : m p = .ok a p₁) : (m >>= f) p = f a p₁ := by
  rw [bind_eq, h]

namespace Replays

theorem pure (a : α) : Replays (pure a) := by
  refine ⟨fun {given p p' b} hp h => ?_, fun _ h => nomatch h⟩
  cases h
  refine ⟨hp, [], (List.append_nil _).symm, fun {q rest} hq hanswers => ?_⟩
  exact ⟨q, rfl, hq, hanswers, rfl⟩

theorem bind {m : Play Rehearsal α} {f : α → Play Rehearsal β} (hm : Replays m) (hf : ∀ a, Replays (f a)) :
    Replays (m >>= f) := by
  refine ⟨fun {given p p' b} hp h => ?_, fun {given p p' err} hp h => ?_⟩
  · obtain ⟨a, p₁, h₁, h₂⟩ := bind_ok h
    obtain ⟨hp₁, first, htaken₁, hreplay₁⟩ := hm.ends hp h₁
    obtain ⟨hp', second, htaken₂, hreplay₂⟩ := (hf a).ends hp₁ h₂
    refine ⟨hp', first ++ second, by rw [htaken₂, htaken₁, List.append_assoc], fun {q rest} hq hanswers => ?_⟩
    rw [typedIn, List.map_append, List.append_assoc] at hanswers
    obtain ⟨q₁, hq₁, htwin₁, hrest₁, hasked₁⟩ := hreplay₁ hq hanswers
    obtain ⟨q', hq', htwin', hrest', hasked'⟩ := hreplay₂ htwin₁ hrest₁
    refine ⟨q', (bind_of_ok hq₁).trans hq', htwin', hrest', ?_⟩
    rw [hasked', hasked₁, List.length_append, Nat.add_assoc]
  · rw [bind_eq] at h
    split at h
    · next a p₁ h₁ => exact (hf a).fails (hm.ends hp h₁).1 h
    · next h₁ =>
      cases h
      exact hm.fails hp h₁

/-- What follows may depend on the engine. -/
theorem get {f : Player Rehearsal → Play Rehearsal α} (h : ∀ p, Replays (f p))
    (congr : ∀ p q, q.engine = p.engine → f q = f p) : Replays (get >>= f) := by
  refine ⟨fun {given p p' a} hp hok => ?_, fun {given p p' err} hp herr => (h p).fails hp herr⟩
  obtain ⟨hp', answers, htaken, hreplay⟩ := (h p).ends hp hok
  refine ⟨hp', answers, htaken, fun {q rest} hq hanswers => ?_⟩
  obtain ⟨q', hok', hreplayed⟩ := hreplay hq hanswers
  rw [← congr p q hq.engine] at hok'
  exact ⟨q', hok', hreplayed⟩

end Replays

/-! ## Parts that drive the engine -/

/-- An operation of the engine takes no answer. -/
theorem replays_act (a : Act α) : Replays (act a) := by
  refine ⟨fun {given p p' x} hp h => ?_, fun {given p p' err} hp h => ?_⟩ <;> unfold act at h <;> split at h <;>
    cases h
  · next engine ha =>
    refine ⟨⟨hp.texts, hp.accounts⟩, [], (List.append_nil _).symm, fun {q rest} hq hanswers => ?_⟩
    have hact : act a q = .ok x { q with engine } := by
      unfold act
      rw [hq.engine, ha]
    exact ⟨_, hact, ⟨rfl, hq.unprepared, hq.shown⟩, hanswers, rfl⟩
  · obtain ⟨left, hleft, -⟩ := hp.accounts
    exact Option.isSome_iff_exists.2 ⟨left, hleft⟩

theorem read_eq_act (f : Engine → Except Error α) :
    (read f : Play Rehearsal α) = act fun e => Engine.lift (f e) e := by
  funext p
  unfold read act
  dsimp only
  cases f p.engine <;> rfl

theorem replays_read (f : Engine → Except Error α) : Replays (read f) := by
  rw [read_eq_act]
  exact replays_act _

theorem goOn_eq_act : (goOn : Play Rehearsal Bool) = act fun e =>
    match Engine.advance e with
    | .ok _ e => .ok false e
    | .error (.script (.finished _)) e => .ok true e
    | .error err e => .error err e := by
  funext p
  unfold goOn act
  dsimp only
  rcases Engine.advance p.engine with ⟨a, e⟩ | ⟨(_ | _), e⟩
  · rfl
  · rename_i cause
    cases cause <;> rfl
  · rfl

theorem begin_eq_act : (begin : Play Rehearsal Bool) = act fun e =>
    if e.isStarted then .ok false e
    else match Engine.start e with
      | .ok _ e => .ok false e
      | .error (.script (.finished _)) e => .ok true e
      | .error err e => .error err e := by
  funext p
  unfold begin act
  dsimp only
  split
  · rfl
  · rcases Engine.start p.engine with ⟨a, e⟩ | ⟨(_ | _), e⟩
    · rfl
    · rename_i cause
      cases cause <;> rfl
    · rfl

/-! ## Parts that talk -/

theorem shown_note_shown (r : Rehearsal) (text : String) : (r.note (.shown text)).shown = r.shown ++ [text] := by
  unfold Rehearsal.note Rehearsal.shown
  rw [List.filterMap_append]
  rfl

theorem replays_display (text : String) : Replays (display Rehearsal.console text) := by
  refine ⟨fun {given p p' x} hp h => ?_, fun _ h => nomatch h⟩
  cases h
  refine ⟨⟨hp.texts, hp.accounts⟩, [], (List.append_nil _).symm, fun {q rest} hq hanswers => ?_⟩
  refine ⟨_, rfl, ⟨hq.engine, hq.unprepared, ?_⟩, hanswers, ?_⟩
  · change (q.console.note (.shown text)).shown = (p.console.note (.shown text)).shown
    rw [shown_note_shown, shown_note_shown, hq.shown]
  · change (q.console.note (.shown text)).prompts.length = _
    unfold Rehearsal.note Rehearsal.prompts
    rw [List.filterMap_append]
    simp

/-! ## Questions -/

/-- What an answer comes to: the default stands for a silent one. -/
def settled (default : Option String) (answer : Value) : Value :=
  if isSilent answer then .text (default.getD "") else answer

namespace Accounts

variable {given left taken : List Value} {v : Value}

/-- An answer is taken. -/
theorem take (h : Accounts given (v :: left) taken) : Accounts given left (taken ++ [v]) := by
  obtain ⟨used, missed, rfl, rfl, hmissed⟩ := h
  obtain rfl : missed = 0 := Decidable.byContradiction fun hne => nomatch hmissed hne
  exact ⟨used ++ [v], 0, by rw [List.append_assoc]; rfl, by simp, fun h => absurd rfl h⟩

/-- There is no answer to take. -/
theorem miss (h : Accounts given [] taken) : Accounts given [] (taken ++ [.unset]) := by
  obtain ⟨used, missed, rfl, rfl, -⟩ := h
  refine ⟨used, missed + 1, rfl, ?_, fun _ => rfl⟩
  rw [List.append_assoc, List.replicate_succ']

end Accounts

theorem takenAt_append (taken : List (String × Value)) (key other : String) (v : Value) :
    takenAt (taken ++ [(key, v)]) other =
      if other = key then takenAt taken other ++ [v] else takenAt taken other := by
  unfold takenAt
  rw [List.filter_append, List.map_append]
  by_cases h : other = key
  · subst h
    simp
  · simp [h, Ne.symm h]

theorem answersAt_insert (prepared : OrderedMap String (List Value)) (key other : String) (answers : List Value) :
    answersAt (prepared.insert key answers) other =
      if other = key then answers else answersAt prepared other := by
  unfold answersAt
  rw [OrderedMap.get?_insert]
  split <;> rfl

theorem takePrepared_eq (p : Player Rehearsal) (left : OrderedMap String (List Value)) (step : Int) :
    takePrepared left step p =
      let key := stepKey p.engine left step
      match answersAt left key with
      | answer :: rest => .ok answer
          { p with prepared := some (left.insert key rest), taken := p.taken ++ [(key, answer)] }
      | [] => .ok .unset { p with taken := p.taken ++ [(key, Value.unset)] } := by
  unfold takePrepared answersAt
  rw [bind_of_ok (show (get : Play Rehearsal (Player Rehearsal)) p = .ok p p from rfl)]
  dsimp only
  rcases left.get? (stepKey p.engine left step) with _ | (_ | ⟨answer, rest⟩) <;> rfl

/-- **A question with prepared answers** takes the next answer of the step, if one is left. -/
theorem ask_of_prepared {given : OrderedMap String (List Value)} (hp : Headless given p) (step : Int)
    (prompt : String) (default : Option String) :
    ∃ key v left, ask Rehearsal.console step prompt default p = .ok (settled default v)
        { p with prepared := some left, taken := p.taken ++ [(key, v)] } ∧
      (v = .unset ∨ ∃ t, v = .text t) ∧
      ∀ other, Accounts (answersAt given other) (answersAt left other)
        (takenAt (p.taken ++ [(key, v)]) other) := by
  obtain ⟨left, hleft, haccounts⟩ := hp.accounts
  have hask : ask Rehearsal.console step prompt default p =
      (takePrepared left step >>= fun answer => pure (settled default answer)) p := by
    unfold ask
    rw [bind_of_ok (show (get : Play Rehearsal (Player Rehearsal)) p = .ok p p from rfl)]
    simp only [hleft]
    rfl
  have htake := takePrepared_eq p left step
  dsimp only at htake
  have hkey := haccounts (stepKey p.engine left step)
  generalize stepKey p.engine left step = key at htake hkey
  cases hfound : answersAt left key with
  | nil =>
    rw [hfound] at htake hkey
    refine ⟨key, .unset, left, ?_, .inl rfl, fun other => ?_⟩
    · rw [hask, bind_of_ok htake, ← hleft]
      rfl
    · rw [takenAt_append]
      split
      · next heq =>
        subst heq
        rw [hfound]
        exact hkey.miss
      · exact haccounts other
  | cons v rest =>
    rw [hfound] at htake hkey
    have hgiven : v ∈ answersAt given key := by
      obtain ⟨used, missed, hused, -⟩ := hkey
      rw [hused]
      exact List.mem_append_right _ List.mem_cons_self
    refine ⟨key, v, left.insert key rest, ?_, .inr (hp.texts key v hgiven), fun other => ?_⟩
    · rw [hask, bind_of_ok htake]
      rfl
    · rw [takenAt_append, answersAt_insert]
      split
      · next heq =>
        subst heq
        exact hkey.take
      · exact haccounts other

/-- **A question at the console** takes the next answer of all. -/
theorem ask_of_unprepared (hq : q.prepared = none) {v : Value} (hv : v = .unset ∨ ∃ t, v = .text t)
    {rest : List Value} (hanswers : q.console.answers = typed v :: rest) (step : Int) (prompt : String)
    (default : Option String) : ask Rehearsal.console step prompt default q = .ok (settled default v)
      { q with console := { (q.console.note (.asked prompt default)) with answers := rest } } := by
  have hask : ask Rehearsal.console step prompt default q =
      askConsole Rehearsal.console prompt default q := by
    unfold ask
    rw [bind_of_ok (show (get : Play Rehearsal (Player Rehearsal)) q = .ok q q from rfl)]
    simp only [hq]
  have hnoted : (q.console.note (.asked prompt default)).answers = typed v :: rest := hanswers
  have hanswer : Rehearsal.answer default (q.console.note (.asked prompt default)) =
      .ok (settled default v).toText { (q.console.note (.asked prompt default)) with answers := rest } := by
    unfold Rehearsal.answer settled
    rw [hnoted]
    rcases hv with rfl | ⟨t, rfl⟩
    · rfl
    · dsimp only [typed]
      split <;> rfl
  have htext : settled default v = .text (settled default v).toText := by
    unfold settled
    rcases hv with rfl | ⟨t, rfl⟩
    · rfl
    · split <;> rfl
  have hconsole : Rehearsal.console.ask prompt default q.console =
      Rehearsal.answer default (q.console.note (.asked prompt default)) := rfl
  rw [hask, htext]
  unfold askConsole
  rw [hconsole, hanswer]

theorem replays_ask (step : Int) (prompt : String) (default : Option String) :
    Replays (ask Rehearsal.console step prompt default) := by
  refine ⟨fun {given p p' a} hp h => ?_, fun {given p p' err} hp h => ?_⟩ <;>
    obtain ⟨key, v, left, hask, hv, haccounts⟩ := ask_of_prepared hp step prompt default <;>
    rw [hask] at h <;> cases h
  refine ⟨⟨hp.texts, left, rfl, haccounts⟩, [(key, v)], rfl, fun {q rest} hq hanswers => ?_⟩
  refine ⟨_, ask_of_unprepared hq.unprepared hv hanswers step prompt default,
    ⟨hq.engine, hq.unprepared, ?_⟩, rfl, ?_⟩
  · rw [← hq.shown]
    unfold Rehearsal.note Rehearsal.shown
    rw [List.filterMap_append]
    exact List.append_nil _
  · unfold Rehearsal.note Rehearsal.prompts
    rw [List.filterMap_append, List.length_append]
    rfl

/-! ## Attempts -/

theorem replays_goBackOn (answer : Value) : Replays (goBackOn answer) := by
  unfold goBackOn
  split
  · exact (replays_act _).bind fun _ => .pure true
  · exact .pure false

theorem replays_showChoices (rich : Bool) (step : Int) (selected : Option Int) (choices : List Choice) :
    ∀ n, Replays (showChoices Rehearsal.console rich step selected n choices) := by
  induction choices with
  | nil => exact fun _ => .pure none
  | cons choice rest ih =>
    intro n
    unfold showChoices
    refine (replays_read _).bind fun text => (replays_display _).bind fun _ => (ih _).bind fun later => ?_
    exact .pure _

theorem replays_offerChoices (rich : Bool) (step : Step) :
    Replays (offerChoices Rehearsal.console rich step) := by
  unfold offerChoices
  refine .get (fun p => ?_) fun p q h => by rw [h]
  refine (replays_display _).bind fun _ => (replays_showChoices ..).bind fun default => ?_
  refine (replays_display _).bind fun _ => (replays_ask ..).bind fun answer => ?_
  refine (replays_goBackOn answer).bind fun back => ?_
  split
  · exact .pure true
  refine (replays_read _).bind fun text => ?_
  split
  · exact .pure false
  · exact (replays_read _).bind fun choice => (replays_act _).bind fun _ => .pure false

theorem replays_askProperties (step : Int) (ids : List Int) :
    Replays (askProperties Rehearsal.console step ids) := by
  induction ids with
  | nil => exact .pure false
  | cons id rest ih =>
    unfold askProperties
    refine (replays_read _).bind fun property => (replays_ask ..).bind fun answer => ?_
    refine (replays_goBackOn answer).bind fun back => ?_
    split
    · exact .pure true
    split
    · exact (replays_act _).bind fun _ => ih
    · exact ih

theorem replays_goOn : Replays goOn := by
  rw [goOn_eq_act]
  exact replays_act _

theorem replays_begin : Replays begin := by
  rw [begin_eq_act]
  exact replays_act _

/-- The part of an attempt after its choices. -/
theorem replays_afterChoices (step : Step) : Replays (do
    let asked := toAsk (← MonadState.get).engine step
    if step.choices.isEmpty && asked.isEmpty && !step.isFinal then
      if ← goBackOn (← ask Rehearsal.console step.id "Press Enter to continue" (some "")) then return false
    if ← askProperties Rehearsal.console step.id asked then return false
    goOn) := by
  refine .get (fun p => ?_) fun p q h => by rw [h]
  have hasked : Replays (do
      if ← askProperties Rehearsal.console step.id (toAsk p.engine step) then return false
      goOn) := by
    refine (replays_askProperties _ _).bind fun back => ?_
    split
    · exact .pure false
    · exact replays_goOn
  dsimp only
  split
  · refine (replays_ask ..).bind fun answer => (replays_goBackOn answer).bind fun back => ?_
    split
    · exact .pure false
    · exact hasked
  · exact hasked

/-- **An attempt can be replayed.** -/
theorem replays_attempt (rich : Bool) : Replays (attempt Rehearsal.console rich) := by
  unfold attempt
  refine (replays_read _).bind fun text => (replays_display _).bind fun _ => ?_
  refine .get (fun p => ?_) fun p q h => by rw [h]
  split
  · exact .pure true
  next step _ =>
  split
  · refine (replays_offerChoices rich step).bind fun back => ?_
    split
    · exact .pure false
    · exact replays_afterChoices step
  · exact replays_afterChoices step

/-! ## The run -/

/-- With prepared answers a failed attempt ends the run. -/
theorem playOn_of_prepared {given : OrderedMap String (List Value)} (hp : Headless given p) (m : Manner)
    (attempts : Nat) (failures : Int) : playOn Rehearsal.console m (attempts + 1) failures p =
      (attempt Rehearsal.console m.rich >>= fun finished =>
        if finished then pure true else playOn Rehearsal.console m attempts 0) p := by
  rw [playOn, bind_eq]
  dsimp only
  cases hattempt : attempt Rehearsal.console m.rich p with
  | ok finished p' => cases finished <;> rfl
  | error err p' =>
    have hsome : p'.prepared.isNone = false := by
      rw [← Option.not_isSome, (replays_attempt m.rich).fails hp hattempt, Bool.not_true]
    simp only [hsome, Bool.and_false, Bool.false_and, Bool.false_eq_true, if_false]

/-- So no attempt fails where the run ends well, and at the console none fails either. -/
theorem replays_playOn (m : Manner) (attempts : Nat) :
    ∀ failures, Replays (playOn Rehearsal.console m attempts failures) := by
  induction attempts with
  | zero => exact fun _ => .pure false
  | succ attempts ih =>
    intro failures
    have hreplay : Replays (attempt Rehearsal.console m.rich >>= fun finished =>
        if finished then pure true else playOn Rehearsal.console m attempts 0) := by
      refine (replays_attempt _).bind fun finished => ?_
      split
      · exact .pure true
      · exact ih 0
    refine ⟨fun {given p p' a} hp h => ?_, fun {given p p' err} hp h => ?_⟩ <;> rw [playOn_of_prepared hp] at h
    · obtain ⟨hp', answers, htaken, hreplayed⟩ := hreplay.ends hp h
      refine ⟨hp', answers, htaken, fun {q rest} hq hanswers => ?_⟩
      obtain ⟨q', hq', hrest⟩ := hreplayed hq hanswers
      refine ⟨q', ?_, hrest⟩
      obtain ⟨finished, q₁, hattempt, hmore⟩ := bind_ok hq'
      rw [playOn]
      dsimp only
      rw [hattempt]
      cases finished <;> exact hmore
    · exact hreplay.fails hp h

theorem replays_run (m : Manner) (attempts : Nat) : Replays (run Rehearsal.console m attempts) := by
  unfold run
  refine replays_begin.bind fun begun => ?_
  have hend : ∀ finished : Bool, Replays (do
      let p ← MonadState.get
      return if finished then some p.engine.snapshot else none) := fun finished =>
    .get (fun p => .pure _) fun p q h => by rw [h]
  split
  · exact (Replays.pure true).bind hend
  · exact (replays_playOn m attempts 0).bind hend

theorem answersAt_prepare {given : List (Value × List Value)} {key : String} {v : Value}
    (h : v ∈ answersAt (prepare given) key) : ∃ x ∈ given, v ∈ x.2 := by
  unfold answersAt at h
  cases hget : (prepare given).get? key with
  | none =>
    rw [hget] at h
    cases h
  | some answers =>
    rw [hget] at h
    obtain ⟨x, hx, heq⟩ := List.mem_map.1 (OrderedMap.mem_of_mem_ofList (OrderedMap.get?_eq_some_iff.1 hget))
    obtain ⟨-, rfl⟩ := Prod.mk.inj heq
    exact ⟨x, hx, h⟩

/-- **A run with prepared texts can be played again by hand.** If it ends with a snapshot, then the answers
that it took, typed in at the prompts in the same order, with an empty line for each that was missing, lead
to the same snapshot. The same is shown on the way, each prompt takes one answer, and none is left over. What
was taken under a key are the answers prepared for it, in order, and then nothing. -/
theorem run_typedIn {e : Engine} {given : List (Value × List Value)} {m : Manner} {attempts : Nat}
    {queue : List Value} {s : Snapshot} {p' : Player Rehearsal}
    (texts : ∀ x ∈ given, ∀ v ∈ x.2, ∃ t, v = .text t)
    (h : run Rehearsal.console m attempts
      { engine := e, console := { answers := queue }, prepared := some (prepare given) } = .ok (some s) p') :
    (∃ q', run Rehearsal.console m attempts { engine := e, console := { answers := typedIn p'.taken } } =
        .ok (some s) q' ∧
      q'.console.shown = p'.console.shown ∧ q'.console.answers = [] ∧
      q'.console.prompts.length = p'.taken.length ∧ q'.engine = p'.engine) ∧
    ∃ left, p'.prepared = some left ∧
      ∀ key, Accounts (answersAt (prepare given) key) (answersAt left key) (takenAt p'.taken key) := by
  have hp : Headless (prepare given)
      { engine := e, console := { answers := queue }, prepared := some (prepare given) : Player Rehearsal } := by
    refine ⟨fun key v hv => ?_, prepare given, rfl, fun key => ⟨[], 0, rfl, rfl, fun h => absurd rfl h⟩⟩
    obtain ⟨x, hx, hmem⟩ := answersAt_prepare hv
    exact texts x hx v hmem
  obtain ⟨hp', answers, htaken, hreplay⟩ := (replays_run m attempts).ends hp h
  obtain rfl : p'.taken = answers := htaken
  obtain ⟨q', hrun, htwin, hempty, hasked⟩ :=
    hreplay (q := { engine := e, console := { answers := typedIn p'.taken } }) ⟨rfl, rfl, rfl⟩
      (List.append_nil _).symm
  refine ⟨⟨q', hrun, htwin.shown, hempty, ?_, htwin.engine⟩, hp'.accounts⟩
  rw [hasked]
  exact Nat.zero_add _

/-! ## A day that is played -/

/-- The result of an operation that ends well and has one, and the state after it. -/
def finished {ε σ α : Type} : EStateM.Result ε σ (Option α) → Option (α × σ)
  | .ok (some a) s => some (a, s)
  | _ => none

theorem eq_ok_of_finished {ε σ α : Type} {r : EStateM.Result ε σ (Option α)} {a : α} {s : σ}
    (h : finished r = some (a, s)) : r = .ok (some a) s := by
  unfold finished at h
  split at h
  · cases h
    rfl
  · cases h

/-- Three pages, the second of which asks for a note. -/
def day : Script :=
  let morning := Engine.blankSheet.withSay "Morning" { id := .int 1, first := true, rules := [(none, .int 2)] }
  let noon := morning.withSay "Noon" { id := .int 2, required := [1], rules := [(none, .int 3)] }
  noon.withSay "Evening" { id := .int 3 }

/-- Answers for the second page only: back first, and then the note. -/
def dayAnswers : List (Value × List Value) := [(.int 2, [.text " Back", .text "sunny"])]

/-- A player that takes them. -/
def dayPlayer : Player Rehearsal where
  engine := Engine.ofScript day .empty
  console := { answers := [] }
  prepared := some (prepare dayAnswers)

/-- Four prompts: the first page has no answers, and it is shown twice. -/
theorem day_typedIn : ∃ s p' q', run Rehearsal.console {} 5 dayPlayer = .ok (some s) p' ∧
    p'.taken.map (fun x => (x.1, (typed x.2).toText)) = [("1", ""), ("2", " Back"), ("1", ""), ("2", "sunny")] ∧
    run Rehearsal.console {} 5 { engine := dayPlayer.engine, console := { answers := typedIn p'.taken } } =
      .ok (some s) q' ∧
    q'.console.shown = ["Morning", "Noon", "Morning", "Noon", "Evening"] := by
  have hdone : ((finished (run Rehearsal.console {} 5 dayPlayer)).any fun x =>
      decide (x.2.taken.map (fun y => (y.1, (typed y.2).toText)) =
        [("1", ""), ("2", " Back"), ("1", ""), ("2", "sunny")]) &&
      decide (x.2.console.shown = ["Morning", "Noon", "Morning", "Noon", "Evening"])) = true := by
    decide +kernel
  have texts : ∀ x ∈ dayAnswers, ∀ v ∈ x.2, ∃ t, v = .text t := by simp [dayAnswers]
  obtain ⟨⟨s, p'⟩, hfinished, hplayed⟩ := (Option.any_eq_true _ _).1 hdone
  simp only [Bool.and_eq_true, decide_eq_true_eq] at hplayed
  have hrun := eq_ok_of_finished hfinished
  obtain ⟨⟨q', hq', hshown, -⟩, -⟩ := run_typedIn texts hrun
  exact ⟨s, p', q', hrun, hplayed.1, hq', hshown.trans hplayed.2⟩

end Player
end Walkthrough
