/-
# Restoring in closed form

A snapshot is accepted if it suits the script (`Suits`), and then nothing of it is changed on the way in
(`check_of_suits`). What is accepted is always the state of a path: the history, or the current step alone
if there is no history (`Snapshot.path`, `check_ok`). Restoring tells its events last (`restore_eq`); it breaks
off before it changes the position if a value of the snapshot cannot be logged (`interrupted`).
-/

import Walkthrough.Engine.Restore
import Walkthrough.Proofs.Engine.Move
import Walkthrough.Proofs.Engine.Path

namespace Walkthrough

/-- The path that a snapshot stands for. -/
def Snapshot.path (s : Snapshot) : List Int :=
  if s.history.isEmpty then s.current.toList else s.history

/-- Whether all values of a snapshot can be logged. -/
def Snapshot.isLoggable (s : Snapshot) : Bool := Store.areLoggable s.values.entries

namespace Engine

variable {e : Engine} {s : Snapshot}

/-! ## Links -/

/-- The links of a history lead from step to step along transitions of the script. -/
theorem checkedLinks_ok {script : Script} {rest : List Int} :
    ∀ {P : List Int} {links out : OrderedMap Int Int},
      checkedLinks script P.getLast? links rest = .ok out → (P ++ rest).Nodup →
        Represents P.getLast? links P → Represents (P ++ rest).getLast? out (P ++ rest) := by
  induction rest with
  | nil =>
    intro P links out h _ hrep
    cases h
    rwa [List.append_nil]
  | cons step rest ih =>
    intro P links out h hnodup hrep
    have hstep : step ∉ P := fun hm =>
      (List.nodup_append.1 hnodup).2.2 step hm step List.mem_cons_self rfl
    rw [List.append_cons] at hnodup ⊢
    unfold checkedLinks at h
    split at h
    · cases h
    split at h
    · next hlast =>
      obtain rfl : P = [] := List.getLast?_eq_none_iff.1 hlast
      exact ih h hnodup (hrep.first step)
    · next previous hlast =>
      split at h
      · refine ih (by rwa [List.getLast?_concat]) hnodup ?_
        rw [List.getLast?_concat]
        exact hrep.push hlast hstep
      · cases h

/-- The links of a history whose steps follow one another are accepted. -/
theorem checkedLinks_of_isChain {script : Script} {rest : List Int} :
    ∀ (previous : Option Int) (links : OrderedMap Int Int),
      (∀ step ∈ rest, script.hasStep step = true) →
        (previous.toList ++ rest).IsChain (fun a b => b ∈ script.nextSteps a) →
          ∃ out, checkedLinks script previous links rest = .ok out := by
  induction rest with
  | nil => exact fun _ _ _ _ => ⟨_, rfl⟩
  | cons step rest ih =>
    intro previous links hsteps hchain
    have hstep := hsteps step List.mem_cons_self
    have hrest := fun x hx => hsteps x (List.mem_cons_of_mem _ hx)
    cases previous with
    | none =>
      obtain ⟨out, hout⟩ := ih (some step) links hrest hchain
      exact ⟨out, by rw [checkedLinks, hstep]; exact hout⟩
    | some previous =>
      obtain ⟨hnext, hchain⟩ := List.isChain_cons_cons.1 hchain
      obtain ⟨out, hout⟩ := ih (some step) (links.insert step previous) hrest hchain
      refine ⟨out, ?_⟩
      rw [checkedLinks, hstep]
      simp only [List.contains_iff_mem.2 hnext, if_true]
      exact hout

/-! ## Choices and values -/

/-- Choices that exist are kept as they are. -/
theorem checkedChoices_eq {script : Script} {es : List (Int × Int)} :
    ∀ {selected : OrderedMap Int Int}, (∀ x ∈ es, (script.choice? x.1 x.2).isSome = true) →
      checkedChoices script selected es = .ok (selected.insertAll es) := by
  induction es with
  | nil => exact fun _ => rfl
  | cons x rest ih =>
    intro selected h
    obtain ⟨c, hc⟩ := Option.isSome_iff_exists.1 (h x List.mem_cons_self)
    unfold checkedChoices
    rw [hc]
    exact ih fun y hy => h y (List.mem_cons_of_mem _ hy)

/-- Values that can be converted are kept in the form of their properties. -/
theorem checkedSaved_of_convert {store : Store} {f : Value → Value} {es : List (Int × Value)} :
    ∀ {values : OrderedMap Int Value}, (∀ x ∈ es, store.convert x.1 (f x.2) = .ok x.2) →
      checkedSaved store values (es.map fun x => (x.1, f x.2)) = .ok (values.insertAll es) := by
  induction es with
  | nil => exact fun _ => rfl
  | cons x rest ih =>
    intro values h
    have hx := h x List.mem_cons_self
    have hc : store.contains x.1 = true := Store.contains_of_convert hx
    rw [List.map_cons]
    unfold checkedSaved
    rw [hc, hx]
    exact ih fun y hy => h y (List.mem_cons_of_mem _ hy)

/-- Values in the form of their properties are kept as they are. -/
theorem checkedSaved_eq {store : Store} {es : List (Int × Value)} {values : OrderedMap Int Value}
    (h : ∀ x ∈ es, store.Fits x.1 x.2) : checkedSaved store values es = .ok (values.insertAll es) := by
  have heq : checkedSaved store values (es.map fun x => (x.1, id x.2)) = _ := checkedSaved_of_convert h
  exact (congrArg (checkedSaved store values) (List.map_id es)).symm.trans heq

/-- Values that were accepted have the form of their properties. -/
theorem fits_of_checkedSaved {store : Store} {es : List (Int × Value)} :
    ∀ {values out : OrderedMap Int Value}, checkedSaved store values es = .ok out →
      (∀ x ∈ values.entries, store.Fits x.1 x.2) → ∀ x ∈ out.entries, store.Fits x.1 x.2 := by
  induction es with
  | nil =>
    intro values out h hvalues
    cases h
    exact hvalues
  | cons x rest ih =>
    intro values out h hvalues
    unfold checkedSaved at h
    split at h
    · split at h
      · exact ih h hvalues
      · cases h
    · split at h
      · next w hw =>
        refine ih h fun y hy => ?_
        rcases OrderedMap.mem_put hy with rfl | hy
        · exact Store.fits_of_convert hw
        · exact hvalues y hy
      · cases h
      · cases h

/-! ## Checking a snapshot -/

theorem checkedHistory_ok {script : Script} {history : List Int}
    (h : checkedHistory script s = .ok history) :
    history = s.path ∧ history.Nodup ∧ history.getLast? = s.current := by
  unfold checkedHistory at h
  unfold Snapshot.path
  split at h
  · cases h
  next hnodup =>
    have hnodup : s.history.Nodup := by simpa using hnodup
    split at h
    · next current hc =>
      split at h
      · cases h
      have hpath : (if s.history.isEmpty then (some current).toList else s.history).Nodup := by
        split
        · exact List.nodup_cons.2 ⟨List.not_mem_nil, List.nodup_nil⟩
        · exact hnodup
      rw [hc]
      dsimp only [Option.toList_some] at h hpath ⊢
      generalize (if s.history.isEmpty then [current] else s.history) = path at h hpath ⊢
      split at h
      · cases h
      · next hlast =>
        cases h
        exact ⟨rfl, hpath, by simpa using hlast⟩
    · next hc =>
      split at h
      · next hempty =>
        cases h
        rw [hc, hempty]
        exact ⟨rfl, List.nodup_nil, rfl⟩
      · cases h

/-- The parts of a check, each of which has to go well. -/
theorem check_parts {r : Restored} (h : e.check s = .ok r) :
    r.current = s.current ∧ checkedHistory e.script s = .ok s.path ∧
      checkedLinks e.script none .empty s.path = .ok r.cameFrom ∧
      checkedChoices e.script .empty s.choices.entries = .ok r.selected ∧
      checkedSaved e.store .empty s.values.entries = .ok r.values := by
  unfold check at h
  cases hh : checkedHistory e.script s with
  | error err => rw [hh] at h; cases h
  | ok history =>
    cases hl : checkedLinks e.script none .empty history with
    | error err => rw [hh] at h; simp only [bind, Except.bind, hl] at h; cases h
    | ok cameFrom =>
      cases hc : checkedChoices e.script .empty s.choices.entries with
      | error err => rw [hh] at h; simp only [bind, Except.bind, hl, hc] at h; cases h
      | ok selected =>
        cases hv : checkedSaved e.store .empty s.values.entries with
        | error err => rw [hh] at h; simp only [bind, Except.bind, hl, hc, hv] at h; cases h
        | ok values =>
          rw [hh] at h
          simp only [bind, Except.bind, hl, hc, hv] at h
          cases h
          obtain ⟨rfl, -, -⟩ := checkedHistory_ok hh
          exact ⟨rfl, rfl, hl, rfl, rfl⟩

/-- **What is accepted** stands for the path of the snapshot, and its values have the form of their
properties. -/
theorem check_ok {r : Restored} (h : e.check s = .ok r) :
    r.current = s.current ∧ Represents r.current r.cameFrom s.path ∧
      ∀ x ∈ r.values.entries, e.store.Fits x.1 x.2 := by
  obtain ⟨hcurrent, hh, hl, -, hv⟩ := check_parts h
  obtain ⟨-, hnodup, hlast⟩ := checkedHistory_ok hh
  have hrep := checkedLinks_ok (P := []) hl hnodup .nil
  rw [List.nil_append, hlast, ← hcurrent] at hrep
  exact ⟨hcurrent, hrep, fits_of_checkedSaved hv fun x hx => absurd hx List.not_mem_nil⟩

/-- A snapshot that suits an engine: its history is a path of the script to its current step, its choices
exist, and its values have the form of their properties. -/
structure Suits (e : Engine) (s : Snapshot) : Prop where
  nodup : s.history.Nodup
  last : s.history.getLast? = s.current
  say : ∀ current, s.current = some current → ∃ t, e.script.step? current = some t ∧ t.isSay = true
  steps : ∀ step ∈ s.history, e.script.hasStep step = true
  transitions : s.history.IsChain fun a b => b ∈ e.script.nextSteps a
  choices : ∀ x ∈ s.choices.entries, (e.script.choice? x.1 x.2).isSome = true
  values : ∀ x ∈ s.values.entries, e.store.Fits x.1 x.2

theorem Suits.checkedHistory_eq (h : e.Suits s) : checkedHistory e.script s = .ok s.history := by
  unfold checkedHistory
  have hnodup : (!decide s.history.Nodup) = false := by simpa using h.nodup
  simp only [hnodup, Bool.false_eq_true, if_false]
  cases hc : s.current with
  | none =>
    have hempty : s.history = [] := List.getLast?_eq_none_iff.1 (h.last.trans hc)
    simp only [hempty, List.isEmpty_nil, if_true]
  | some current =>
    obtain ⟨t, ht, hsay⟩ := h.say current hc
    have hlast := h.last.trans hc
    have hne : s.history.isEmpty = false := by
      cases hh : s.history with
      | nil => rw [hh] at hlast; cases hlast
      | cons => rfl
    simp [ht, hsay, hne, hlast]

/-- **Nothing of a snapshot that suits is changed.** -/
theorem check_of_suits (h : e.Suits s) : ∃ links, Represents s.current links s.history ∧
    e.check s = .ok ⟨s.current, links, s.choices, s.values⟩ := by
  obtain ⟨links, hlinks⟩ := checkedLinks_of_isChain none .empty h.steps h.transitions
  have hrep := checkedLinks_ok (P := []) hlinks h.nodup .nil
  rw [List.nil_append, h.last] at hrep
  refine ⟨links, hrep, ?_⟩
  unfold check
  simp only [h.checkedHistory_eq, hlinks, checkedChoices_eq h.choices, checkedSaved_eq h.values,
    OrderedMap.insertAll_entries, bind, Except.bind]
  rfl

/-! ## Restoring -/

/-- What restoring tells: the choices, and the new position if it is another one. -/
def restoreEvents (before : Option Int) (r : Restored) : List Event :=
  r.selected.entries.map (fun x => .choiceActivated x.1 x.2) ++
    match r.current with
    | none => []
    | some target => if before == some target then [] else arrivalEvents before target

/-- The engine with a checked snapshot in place of its state. -/
def adopted (e : Engine) (r : Restored) : Engine :=
  { e with
    script := e.script.freeze
    store := ⟨e.store.schema, r.values⟩
    cameFrom := r.cameFrom
    selected := r.selected
    current := r.current }

/-- The engine that a restore leaves which breaks off while it writes the values of a checked snapshot. -/
def interrupted (e : Engine) (r : Restored) : Engine :=
  { e with script := e.script.freeze, store := e.store.reset.overwritten (Store.made r.values.entries) }

theorem emitChoices_bind {α : Type} {r : Except Error α} {events : List Event} (es : List (Int × Int)) :
    (emitChoices es >>= fun _ => report r events) =
      report r (es.map (fun x => .choiceActivated x.1 x.2) ++ events) := by
  induction es with
  | nil => rfl
  | cons x rest ih =>
    rw [List.map_cons, List.cons_append, report, ← ih]
    exact bind_assoc ..

theorem report_restoreEvents (before : Option Int) (r : Restored) :
    (emitChoices r.selected.entries >>= fun _ =>
      match r.current with
      | none => pure ()
      | some target =>
        if before == some target then pure ()
        else match before with
          | some left => emit (.stepLeft left) >>= fun _ => emit (.stepEntered before target)
          | none => emit .started >>= fun _ => emit (.stepEntered before target)) =
      report (.ok ()) (restoreEvents before r) := by
  unfold restoreEvents
  rw [← emitChoices_bind]
  congr 1
  funext _
  cases r.current with
  | none => rfl
  | some target =>
    dsimp only
    split
    · rfl
    · cases before with
      | none => exact emit_emit _ _
      | some left => exact emit_emit _ _

/-- **Restoring** refuses a snapshot as a whole or puts it in place of the state, unless it breaks off at a
value that cannot be logged. -/
theorem restore_eq : restore s e = match e.check s with
    | .error err => .error err e
    | .ok r =>
      match Store.logAll r.values.entries with
      | .error err => .error err (e.interrupted r)
      | .ok () => report (.ok ()) (restoreEvents e.current r) (e.adopted r) := by
  unfold restore
  rw [Act.bind_ok (Act.get_eq e)]
  cases hr : e.check s with
  | error err => exact Act.bind_error rfl
  | ok r =>
    have hfits : ∀ x ∈ r.values.entries, e.store.reset.Fits x.1 x.2 :=
      fun x hx => ((check_ok hr).2.2 x hx).congr rfl
    have hlift : lift (.ok r) e = .ok r e := rfl
    have hwrite := writeAll_eq (e := { e with script := e.script.freeze, store := e.store.reset }) hfits
    rw [Act.bind_ok hlift]
    unfold adopt
    rw [Act.bind_ok (Act.modify_eq _ _)]
    dsimp only
    cases hlog : Store.logAll r.values.entries with
    | error err =>
      rw [hlog] at hwrite
      exact Act.bind_error hwrite
    | ok _ =>
      rw [hlog, Store.made_of_logAll hlog] at hwrite
      rw [Act.bind_ok hwrite, Act.bind_ok (Act.get_eq _), Act.bind_ok (Act.set_eq _ _)]
      refine (congrFun (report_restoreEvents e.current r) _).trans ?_
      have hvalues : e.store.reset.overwritten r.values.entries = ⟨e.store.schema, r.values⟩ := by
        rw [Store.overwritten]
        exact congrArg (Store.mk e.store.schema) (OrderedMap.insertAll_entries r.values)
      have hadopted : { e.adopted r with store := e.store.reset.overwritten r.values.entries } = e.adopted r := by
        rw [hvalues]
        rfl
      exact congrArg (report (.ok ()) (restoreEvents e.current r)) hadopted

theorem restore_refused {err : Error} (h : e.check s = .error err) : restore s e = .error err e := by
  rw [restore_eq, h]

theorem restore_accepted {r : Restored} (h : e.check s = .ok r) (hlog : Store.logAll r.values.entries = .ok ()) :
    restore s e = report (.ok ()) (restoreEvents e.current r) (e.adopted r) := by
  rw [restore_eq, h]
  dsimp only
  rw [hlog]

theorem restore_interrupted {r : Restored} {err : Error} (h : e.check s = .ok r)
    (hlog : Store.logAll r.values.entries = .error err) : restore s e = .error err (e.interrupted r) := by
  rw [restore_eq, h]
  dsimp only
  rw [hlog]

end Engine
end Walkthrough
