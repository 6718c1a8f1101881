/-
# Operations that only listeners break off

A listener that fails breaks off the operation that tells it something (`Objects`). Nothing else breaks off going
back to a step before, nor the selection of a choice of the current step (`Succeeds`): what a script writes fits.
There is one exception: a number in a choice that is too long to be logged (`isBurdened`, `BreaksOff`).
-/

import Walkthrough.Proofs.Engine.StoredValues

namespace Walkthrough

/-- A choice of a step is found under its number. -/
theorem Script.Sound.choice?_of_mem {s : Script} (h : s.Sound) {id : Int} {x : Step} {c : Choice}
    (hx : s.step? id = some x) (hc : c ∈ x.choices) : s.choice? id c.id = some c := by
  have distinct : (x.choices.map Choice.id).Nodup := by
    have hbody := (h.step hx).body
    unfold Step.choices
    cases hb : x.body with
    | call => exact List.nodup_nil
    | say text choices =>
      rw [hb] at hbody
      cases hbody with
      | say _ distinct _ => exact distinct
  rw [Script.choice?, hx, Option.bind_some, Step.choice?, List.find?_eq_some_iff_append]
  obtain ⟨before, after, hsplit⟩ := List.append_of_mem hc
  rw [hsplit, List.map_append, List.map_cons, List.nodup_append] at distinct
  refine ⟨beq_self_eq_true _, before, after, hsplit, fun b hb => ?_⟩
  rw [Bool.not_eq_true', beq_eq_false_iff_ne]
  exact distinct.2.2 _ (List.mem_map_of_mem hb) _ List.mem_cons_self

namespace Engine

variable {α β : Type} {e e' : Engine}

/-- One of the listeners fails with an error. -/
def Objects (e : Engine) (err : Error) : Prop := ∃ s ∈ e.bus.subscriptions, Listener.react s.2 = some err

/-- **An operation that only listeners break off**, and what holds after it otherwise. -/
def Succeeds (m : Act α) (e : Engine) (post : α → Engine → Prop) : Prop :=
  (∃ a e', m e = .ok a e' ∧ post a e') ∨ ∃ err e', m e = .error err e' ∧ e.Objects err

theorem objects_of_firstObjection {events : List Event} {err : Error} (h : e.firstObjection events = some err) :
    e.Objects err := by
  obtain ⟨event, -, hevent⟩ := List.exists_of_findSome?_eq_some h
  obtain ⟨l, hl, hreact⟩ := List.exists_of_findSome?_eq_some hevent
  obtain ⟨s, hs, rfl⟩ := List.mem_map.1 hl
  exact ⟨s, (List.mem_filter.1 hs).1, hreact⟩

theorem Keeps.objects_iff (h : e.Keeps e') (err : Error) : e'.Objects err ↔ e.Objects err := by
  rw [Objects, h.bus, Objects]

theorem report_succeeds (a : α) (events : List Event) (e : Engine) :
    Succeeds (report (.ok a) events) e fun b e' => b = a ∧ ∃ told, e' = { e with emitted := e.emitted ++ told } := by
  obtain ⟨told, htold⟩ := after_report (.ok a) events e
  have houtcome : (report (.ok a) events).outcome e = _ := outcome_report
  cases hr : report (.ok a) events e with
  | ok b e' =>
    rw [Act.outcome_ok hr] at houtcome
    rw [Act.after_ok hr] at htold
    refine .inl ⟨b, e', hr, ?_, told, htold⟩
    split at houtcome
    · cases houtcome
    · exact Except.ok.inj houtcome
  | error err e' =>
    rw [Act.outcome_error hr] at houtcome
    refine .inr ⟨err, e', hr, ?_⟩
    split at houtcome
    · next err' hobjection =>
      cases houtcome
      exact objects_of_firstObjection hobjection
    · cases houtcome

theorem Succeeds.mono {m : Act α} {post post' : α → Engine → Prop} (h : Succeeds m e post)
    (himp : ∀ a e', post a e' → post' a e') : Succeeds m e post' :=
  h.imp_left fun ⟨a, e', hm, ha⟩ => ⟨a, e', hm, himp a e' ha⟩

/-- An operation that goes on as another one does with the same listeners. -/
theorem Succeeds.of_eq {m m' : Act α} {post : α → Engine → Prop} (heq : m e = m' e') (keeps : e.Keeps e')
    (h : Succeeds m' e' post) : Succeeds m e post := by
  rcases h with ⟨a, e₁, hm, ha⟩ | ⟨err, e₁, hm, hobjects⟩
  · exact .inl ⟨a, e₁, heq.trans hm, ha⟩
  · exact .inr ⟨err, e₁, heq.trans hm, (keeps.objects_iff err).1 hobjects⟩

/-- One operation after another, if the first keeps the listeners. -/
theorem Succeeds.bind {m : Act α} {f : α → Act β} {post : α → Engine → Prop} {post' : β → Engine → Prop}
    (hm : Succeeds m e post) (keeps : ∀ a e', post a e' → e.Keeps e')
    (hf : ∀ a e', post a e' → Succeeds (f a) e' post') : Succeeds (m >>= f) e post' := by
  rcases hm with ⟨a, e₁, hm, ha⟩ | ⟨err, e₁, hm, hobjects⟩
  · exact .of_eq (Act.bind_ok hm) (keeps a e₁ ha) (hf a e₁ ha)
  · exact .inr ⟨err, e₁, Act.bind_error hm, hobjects⟩

/-- Writing a value that fits and can be logged. -/
theorem setValue_succeeds {id : Int} {v : Value} (h : e.store.Fits id v) (logged : Store.isLoggable id v = true) :
    Succeeds (setValue id v) e fun _ e' => e.Stays e' := by
  have hstays := setValue_stays id v e
  have heq := setValue_of_ok h logged
  rcases report_succeeds () (readyEvents e.foreseen (e.written id v).foreseen) (e.written id v).peeked with
    ⟨u, e₁, hreport, -⟩ | ⟨err, e₁, hreport, hobjects⟩
  · have hset := heq.trans hreport
    rw [Act.after_ok hset] at hstays
    exact .inl ⟨u, e₁, hset, hstays⟩
  · exact .inr ⟨err, e₁, heq.trans hreport, hobjects⟩

/-- Writing values that fit and can be logged. -/
theorem setValues_succeeds {es : List (Int × Value)} (h : ∀ x ∈ es, e.store.Fits x.1 x.2)
    (logged : Store.areLoggable es = true) : Succeeds (setValues es) e fun _ e' => e.Stays e' := by
  induction es generalizing e with
  | nil => exact .inl ⟨(), e, rfl, .refl e⟩
  | cons x rest ih =>
    obtain ⟨hx, hrest⟩ := List.forall_mem_cons.1 h
    obtain ⟨hlog, hlogs⟩ := List.forall_mem_cons.1 (Store.areLoggable_iff.1 logged)
    refine (setValue_succeeds hx hlog).bind (fun _ _ hstays => hstays.toKeeps) fun _ e₁ hstays => ?_
    refine (ih (fun y hy => (hrest y hy).congr hstays.schema) (Store.areLoggable_iff.2 hlogs)).mono ?_
    exact fun _ _ hstays' => hstays.trans hstays'

/-- **An operation that breaks off**: a number in it is too long to be logged, if no listener fails before. -/
def BreaksOff (m : Act α) (e : Engine) : Prop :=
  ∃ err e', m e = .error err e' ∧ (err = .tooManyDigits ∨ e.Objects err)

/-- Writing values that fit, one of which cannot be logged. -/
theorem setValues_breaksOff {es : List (Int × Value)} (h : ∀ x ∈ es, e.store.Fits x.1 x.2)
    (unlogged : Store.areLoggable es = false) : BreaksOff (setValues es) e := by
  induction es generalizing e with
  | nil => cases unlogged
  | cons x rest ih =>
    obtain ⟨hx, hrest⟩ := List.forall_mem_cons.1 h
    cases hlog : Store.isLoggable x.1 x.2 with
    | false => exact ⟨.tooManyDigits, _, Act.bind_error (setValue_of_not_isLoggable hx hlog), .inl rfl⟩
    | true =>
      have hlogs : Store.areLoggable rest = false := by
        rw [Store.areLoggable, List.all_cons, hlog, Bool.true_and] at unlogged
        exact unlogged
      rcases setValue_succeeds hx hlog with ⟨u, e₁, hset, hstays⟩ | ⟨err, e₁, hset, hobjects⟩
      · obtain ⟨err, e₂, hrest, hcause⟩ := ih (fun y hy => (hrest y hy).congr hstays.schema) hlogs
        exact ⟨err, e₂, (Act.bind_ok hset).trans hrest, hcause.imp_right (hstays.toKeeps.objects_iff err).1⟩
      · exact ⟨err, e₁, Act.bind_error hset, .inr hobjects⟩

/-- Whether selecting a choice has to write a value that cannot be logged. A choice that is selected already is not
written again. -/
def isBurdened (e : Engine) (step : Int) (c : Choice) : Bool :=
  e.selected.get? step != some c.id && !Store.areLoggable c.values.entries

section Selecting

variable {step : Int} {c : Choice} (r : e.Ready) (sound : e.script.Sound) (hc : e.current = some step)
  (hchoice : e.script.choice? step c.id = some c)

include r sound hc hchoice

/-- Selecting a choice of the current step whose values can be logged, or which is selected. -/
theorem selectChoice_succeeds (light : e.isBurdened step c = false) :
    Succeeds (selectChoice step c.id) e fun _ e' => e'.selected.get? step = some c.id := by
  have heq := selectChoice_eq step c.id e
  simp only [hc, hchoice, bne_self_eq_false, Bool.false_eq_true, if_false] at heq
  split at heq
  · next hselected => exact .inl ⟨(), e, heq, by simpa using hselected⟩
  next hselected =>
    have logged : Store.areLoggable c.values.entries = true := by
      rw [isBurdened, bne, eq_false_of_ne_true hselected] at light
      simpa using light
    rcases setValues_succeeds (fun x hx => sound.fits_of_writes (.choice hchoice hx) r.schema) logged with
      ⟨u, e₁, hset, hstays⟩ | ⟨err, e₁, hset, hobjects⟩
    · rw [hset] at heq
      dsimp only at heq
      refine .of_eq heq { hstays.toKeeps with } ((report_succeeds ..).mono ?_)
      rintro _ _ ⟨-, told, rfl⟩
      simp
    · rw [hset] at heq
      exact .inr ⟨err, e₁, heq, hobjects⟩

/-- Selecting another choice of the current step, which has a value that cannot be logged. -/
theorem selectChoice_breaksOff (burdened : e.isBurdened step c = true) : BreaksOff (selectChoice step c.id) e := by
  rw [isBurdened, Bool.and_eq_true, Bool.not_eq_true'] at burdened
  obtain ⟨err, e₁, hset, hcause⟩ :=
    setValues_breaksOff (fun x hx => sound.fits_of_writes (.choice hchoice hx) r.schema) burdened.2
  have heq := selectChoice_eq step c.id e
  have hnew : (e.selected.get? step == some c.id) = false := by simpa [bne] using burdened.1
  simp only [hc, hchoice, bne_self_eq_false, Bool.false_eq_true, if_false, hnew, hset] at heq
  exact ⟨err, e₁, heq, hcause⟩

end Selecting

/-- Going back, if there is a step before. -/
theorem back_succeeds {previous : Int} (h : e.previous = some previous) :
    Succeeds back e fun _ e' => e'.current = some previous := by
  obtain ⟨left, hc, hlink⟩ := Option.bind_eq_some_iff.1 h
  have heq := back_eq (e := e)
  simp only [hc, hlink] at heq
  refine .of_eq heq ⟨rfl, rfl, rfl, rfl, rfl, rfl⟩ ((report_succeeds ..).mono ?_)
  rintro _ _ ⟨-, told, rfl⟩
  rfl

/-- Going back, if there is none. -/
theorem back_of_none {step : Int} (hc : e.current = some step) (h : e.previous = none) :
    back e = .error (.script .noPreviousStep) e := by
  have heq := back_eq (e := e)
  rw [previous, hc, Option.bind_some] at h
  simp only [hc, h] at heq
  exact heq

end Engine
end Walkthrough
