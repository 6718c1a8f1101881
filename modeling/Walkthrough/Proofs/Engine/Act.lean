/-
# How an operation ends

An operation of an engine has an outcome, a result or an error, and leaves an engine behind
(`Act.outcome`, `Act.after`). What an operation tells its listeners it tells at its end: `report` tells
events in order and then gives the outcome, unless a listener objects. So an operation is known once the
engine before its report, the events and the outcome are known.
-/

import Walkthrough.Engine.Restore
import Walkthrough.Proofs.Property.Typed

namespace Walkthrough

namespace Act

variable {α β : Type}

/-- The result of an operation, or the error with which it breaks off. -/
def outcome (m : Act α) (e : Engine) : Except Error α :=
  match m e with
  | .ok a _ => .ok a
  | .error err _ => .error err

/-- The engine that an operation leaves behind, whatever comes of it. -/
def after (m : Act α) (e : Engine) : Engine :=
  match m e with
  | .ok _ e' => e'
  | .error _ e' => e'

theorem after_ok {m : Act α} {a : α} {e e' : Engine} (h : m e = .ok a e') : after m e = e' := by
  rw [after, h]

theorem after_error {m : Act α} {err : Error} {e e' : Engine} (h : m e = .error err e') :
    after m e = e' := by
  rw [after, h]

theorem outcome_ok {m : Act α} {a : α} {e e' : Engine} (h : m e = .ok a e') : outcome m e = .ok a := by
  rw [outcome, h]

theorem outcome_error {m : Act α} {err : Error} {e e' : Engine} (h : m e = .error err e') :
    outcome m e = .error err := by
  rw [outcome, h]

theorem after_congr {m m' : Act α} {e e' : Engine} (h : m e = m' e') : after m e = after m' e' := by
  rw [after, after, h]

theorem outcome_congr {m m' : Act α} {e e' : Engine} (h : m e = m' e') :
    outcome m e = outcome m' e' := by
  rw [outcome, outcome, h]

/-- An operation with a result gives it and leaves its engine behind. -/
theorem eq_ok_of_outcome {m : Act α} {a : α} {e : Engine} (h : outcome m e = .ok a) :
    m e = .ok a (after m e) := by
  cases hm : m e with
  | error err e' =>
    rw [outcome_error hm] at h
    cases h
  | ok b e' =>
    rw [outcome_ok hm] at h
    rw [after_ok hm, Except.ok.inj h]

theorem outcome_of_toOption {m : Act α} {a : α} {e : Engine} (h : (outcome m e).toOption = some a) :
    outcome m e = .ok a := by
  cases ho : outcome m e with
  | error err =>
    rw [ho] at h
    cases h
  | ok b =>
    rw [ho] at h
    cases h
    rfl

theorem bind_eq (m : Act α) (f : α → Act β) (e : Engine) :
    (m >>= f) e = match m e with
      | .ok a e' => f a e'
      | .error err e' => .error err e' := by
  change EStateM.bind m f e = _
  unfold EStateM.bind
  cases m e <;> rfl

theorem bind_ok {m : Act α} {f : α → Act β} {a : α} {e e' : Engine} (h : m e = .ok a e') :
    (m >>= f) e = f a e' := by
  rw [bind_eq, h]

theorem bind_error {m : Act α} {f : α → Act β} {err : Error} {e e' : Engine}
    (h : m e = .error err e') : (m >>= f) e = .error err e' := by
  rw [bind_eq, h]

theorem get_eq (e : Engine) : (get : Act Engine) e = .ok e e := rfl

theorem set_eq (e e' : Engine) : (set e' : Act PUnit) e = .ok () e' := rfl

theorem modify_eq (f : Engine → Engine) (e : Engine) : (modify f : Act PUnit) e = .ok () (f e) := rfl

@[simp] theorem outcome_map (f : α → β) (m : Act α) (e : Engine) :
    outcome (f <$> m) e = (outcome m e).map f := by
  change (match EStateM.map f m e with | .ok a _ => _ | .error err _ => _) = _
  unfold outcome EStateM.map
  cases m e <;> rfl

@[simp] theorem after_map (f : α → β) (m : Act α) (e : Engine) : after (f <$> m) e = after m e := by
  change (match EStateM.map f m e with | .ok _ e' => _ | .error _ e' => _) = _
  unfold after EStateM.map
  cases m e <;> rfl

end Act

namespace Engine

variable {α : Type} {e : Engine}

/-- The error of the first listener that objects to an event. -/
def objection (e : Engine) (event : Event) : Option Error :=
  (e.bus.listeners event.kind).findSome? Listener.react

/-- No listener fails. -/
def Quiet (e : Engine) : Prop := ∀ s ∈ e.bus.subscriptions, s.2.failure = none

theorem Quiet.objection (h : e.Quiet) (event : Event) : e.objection event = none := by
  unfold Engine.objection
  rw [List.findSome?_eq_none_iff]
  intro l hl
  obtain ⟨s, hs, rfl⟩ := List.mem_map.1 hl
  rw [Listener.react, h s (List.mem_filter.1 hs).1]
  rfl

/-- The engine with an event noted. -/
def noting (e : Engine) (event : Event) : Engine := { e with emitted := e.emitted ++ [event] }

theorem emit_eq (event : Event) :
    emit event e = match e.objection event with
      | some err => .error err (e.noting event)
      | none => .ok () (e.noting event) := by
  change (match e.objection event with
    | some error => throw error
    | none => return () : Act Unit) (e.noting event) = _
  cases e.objection event <;> rfl

/-- Tells events in order; then the operation ends as it should. -/
def report (outcome : Except Error α) : List Event → Act α
  | [] => lift outcome
  | event :: rest => do
    emit event
    report outcome rest

/-- The first objection to one of several events. -/
def firstObjection (e : Engine) (events : List Event) : Option Error := events.findSome? e.objection

theorem Quiet.firstObjection (h : e.Quiet) (events : List Event) : e.firstObjection events = none :=
  List.findSome?_eq_none_iff.2 fun event _ => h.objection event

/-- Listeners object in their own way only. -/
theorem host_of_firstObjection {events : List Event} {err : Error} (h : e.firstObjection events = some err) :
    ∃ message, err = .failure (.host message) := by
  obtain ⟨event, -, hevent⟩ := List.exists_of_findSome?_eq_some h
  obtain ⟨l, -, hl⟩ := List.exists_of_findSome?_eq_some hevent
  obtain ⟨message, -, rfl⟩ := Option.map_eq_some_iff.1 hl
  exact ⟨message, rfl⟩

theorem report_cons {r : Except Error α} {event : Event} {rest : List Event} :
    report r (event :: rest) e = match e.objection event with
      | some err => .error err (e.noting event)
      | none => report r rest (e.noting event) := by
  change (emit event >>= fun _ => report r rest) e = _
  rw [bind, EStateM.instMonad]
  change EStateM.bind (emit event) _ e = _
  rw [EStateM.bind, emit_eq]
  cases e.objection event <;> rfl

/-- **The outcome of a report** is the first objection, if there is one. -/
theorem outcome_report {r : Except Error α} {events : List Event} :
    Act.outcome (report r events) e = match e.firstObjection events with
      | some err => .error err
      | none => r := by
  induction events generalizing e with
  | nil => cases r <;> rfl
  | cons event rest ih =>
    unfold Act.outcome firstObjection at ih ⊢
    rw [report_cons, List.findSome?_cons]
    cases e.objection event with
    | some err => rfl
    | none => exact ih (e := e.noting event)

/-- A report changes nothing but what was emitted. -/
theorem after_report (r : Except Error α) (events : List Event) (e : Engine) :
    ∃ told, Act.after (report r events) e = { e with emitted := e.emitted ++ told } := by
  induction events generalizing e with
  | nil => exact ⟨[], by rw [List.append_nil]; cases r <;> rfl⟩
  | cons event rest ih =>
    unfold Act.after at ih ⊢
    rw [report_cons]
    cases e.objection event with
    | some err => exact ⟨[event], rfl⟩
    | none =>
      obtain ⟨told, ht⟩ := ih (e.noting event)
      refine ⟨event :: told, ht.trans ?_⟩
      simp only [noting, List.append_assoc, List.singleton_append]

/-- Listeners that do not fail are told everything. -/
theorem Quiet.after_report (q : e.Quiet) (r : Except Error α) (events : List Event) :
    Act.after (report r events) e = { e with emitted := e.emitted ++ events } := by
  induction events generalizing e with
  | nil =>
    rw [List.append_nil]
    cases r <;> rfl
  | cons event rest ih =>
    have q' : (e.noting event).Quiet := q
    have heq : report r (event :: rest) e = report r rest (e.noting event) := by
      rw [report_cons, q.objection]
    rw [Act.after_congr heq, ih q']
    simp only [noting, List.append_assoc, List.singleton_append]

/-- Listeners that do not fail let a result through. -/
theorem Quiet.report_ok (q : e.Quiet) (a : α) (events : List Event) :
    report (.ok a) events e = .ok a { e with emitted := e.emitted ++ events } := by
  have houtcome : Act.outcome (report (.ok a) events) e = .ok a := by
    rw [outcome_report, q.firstObjection]
  rw [Act.eq_ok_of_outcome houtcome, q.after_report]

/-! ## Writing -/

/-- **A write** that has a form for its property is made, whether it can be logged or not. -/
theorem write_of_convert {id : Int} {v w : Value} (h : e.store.convert id v = .ok w) :
    write id v e = lift (Store.log id w) { e with store := e.store.write id w } := by
  unfold write
  rw [Act.bind_eq, Act.get_eq]
  simp only [Store.set_of_convert h]
  rw [Act.bind_ok (Act.set_eq _ _)]

theorem write_of_error {id : Int} {v : Value} {err : Error} (h : e.store.convert id v = .error err) :
    write id v e = .error err e := by
  unfold write
  rw [Act.bind_eq, Act.get_eq]
  simp only [Store.set, h]
  rfl

/-- **Writing values that fit** breaks off only where one cannot be logged. -/
theorem writeAll_eq {es : List (Int × Value)} (h : ∀ x ∈ es, e.store.Fits x.1 x.2) :
    writeAll es e = lift (Store.logAll es) { e with store := e.store.overwritten (Store.made es) } := by
  induction es generalizing e with
  | nil => rfl
  | cons x rest ih =>
    have hwrite := write_of_convert (h x List.mem_cons_self)
    have hrest : ∀ y ∈ rest, (e.store.write x.1 x.2).Fits y.1 y.2 := fun y hy =>
      (h y (List.mem_cons_of_mem _ hy)).congr rfl
    change (write x.1 x.2 >>= fun _ => writeAll rest) e = _
    cases hx : Store.isLoggable x.1 x.2 with
    | true =>
      rw [Store.log_of_isLoggable hx] at hwrite
      rw [Store.logAll_cons_of_isLoggable hx, Store.made_cons_of_isLoggable hx]
      exact (Act.bind_ok hwrite).trans (ih (e := { e with store := e.store.write x.1 x.2 }) hrest)
    | false =>
      rw [Store.log_of_not_isLoggable hx] at hwrite
      rw [Act.bind_error hwrite, Store.logAll_cons_of_not_isLoggable hx, Store.made_cons_of_not_isLoggable hx]
      rfl

theorem outcome_writeAll {es : List (Int × Value)} (h : ∀ x ∈ es, e.store.Fits x.1 x.2) :
    (writeAll es).outcome e = Store.logAll es := by
  rw [Act.outcome, writeAll_eq h]
  cases Store.logAll es <;> rfl

end Engine
end Walkthrough
