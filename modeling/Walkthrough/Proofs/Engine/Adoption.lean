/-
# Restoring leaves nothing of the state before

What an engine holds after it accepted a snapshot, part by part, in terms of the snapshot and of the schema of
its properties alone (`restore_shows_snapshot`):

| part | afterwards |
| --- | --- |
| position | that of the snapshot |
| links | each step of the path of the snapshot after the first, with the step before it |
| choices | those of the snapshot |
| values | those of the snapshot that belong to a property, in the form of the property, in order |

The engine before does not occur on the right, so that no value, choice or link of it is left. The new snapshot
shows the same, without the values that are blank.
-/

import Walkthrough.Proofs.Engine.Atomicity
import Walkthrough.Proofs.Engine.SavedText

namespace Walkthrough

/-- Values in the form of their properties; those of unknown properties are left out. -/
def Schema.converted (schema : Schema) (es : List (Int × Value)) : List (Int × Value) :=
  es.filterMap fun x => ((Store.empty schema).convert x.1 x.2).toOption.map fun w => (x.1, w)

theorem Store.converted_cons (store : Store) (x : Int × Value) (es : List (Int × Value)) :
    store.schema.converted (x :: es) = match store.convert x.1 x.2 with
      | .ok w => (x.1, w) :: store.schema.converted es
      | .error _ => store.schema.converted es := by
  have hconvert := Store.convert_congr (s := .empty store.schema) (t := store) rfl x.1 x.2
  rw [Schema.converted, List.filterMap_cons, hconvert]
  cases store.convert x.1 x.2 <;> rfl

/-- No property gets a value that had none. -/
theorem Store.keys_converted (store : Store) (es : List (Int × Value)) :
    List.Sublist ((store.schema.converted es).map Prod.fst) (es.map Prod.fst) := by
  induction es with
  | nil => exact List.Sublist.refl []
  | cons x rest ih =>
    rw [store.converted_cons]
    split
    · exact ih.cons_cons x.1
    · exact ih.cons x.1

namespace Engine

variable {e : Engine} {s : Snapshot}

/-! ## What was checked -/

theorem checkedChoices_ok {script : Script} {es : List (Int × Int)} :
    ∀ {selected out : OrderedMap Int Int}, checkedChoices script selected es = .ok out →
      out = selected.insertAll es := by
  induction es with
  | nil =>
    intro selected out h
    exact (Except.ok.inj h).symm
  | cons x rest ih =>
    intro selected out h
    unfold checkedChoices at h
    split at h
    · cases h
    · exact ih h

/-- The links of a history after a step: each step with the one before it. -/
theorem checkedLinks_eq_insertAll {script : Script} {rest : List Int} :
    ∀ {previous : Int} {links out : OrderedMap Int Int},
      checkedLinks script (some previous) links rest = .ok out →
        out = links.insertAll (rest.zip (previous :: rest)) := by
  induction rest with
  | nil =>
    intro previous links out h
    exact (Except.ok.inj h).symm
  | cons step rest ih =>
    intro previous links out h
    unfold checkedLinks at h
    split at h
    · cases h
    dsimp only at h
    split at h
    · exact ih h
    · cases h

theorem entries_checkedLinks {script : Script} {path : List Int} {out : OrderedMap Int Int}
    (h : checkedLinks script none .empty path = .ok out) (nodup : path.Nodup) :
    out.entries = path.tail.zip path := by
  cases path with
  | nil =>
    cases h
    rfl
  | cons first rest =>
    unfold checkedLinks at h
    split at h
    · cases h
    have hkeys : (rest.zip (first :: rest)).map Prod.fst = rest :=
      List.map_fst_zip (by rw [List.length_cons]; exact Nat.le_succ _)
    rw [checkedLinks_eq_insertAll h]
    refine OrderedMap.entries_insertAll ?_
    rw [OrderedMap.empty, List.nil_append, hkeys]
    exact (List.nodup_cons.1 nodup).2

/-- What becomes of the values of a snapshot that was accepted. -/
theorem checkedSaved_ok {store : Store} {es : List (Int × Value)} :
    ∀ {values out : OrderedMap Int Value}, checkedSaved store values es = .ok out →
      out = values.insertAll (store.schema.converted es) ∧
        ∀ x ∈ es, store.contains x.1 = true → ∃ w, store.convert x.1 x.2 = .ok w := by
  induction es with
  | nil =>
    intro values out h
    exact ⟨(Except.ok.inj h).symm, by simp⟩
  | cons x rest ih =>
    intro values out h
    unfold checkedSaved at h
    split at h
    · next hunknown =>
      split at h
      on_goal 2 => cases h
      obtain ⟨hout, hknown⟩ := ih h
      have hunknown : store.contains x.1 ≠ true := by simpa using hunknown
      refine ⟨?_, fun y hy hc => ?_⟩
      · rw [hout, store.converted_cons]
        cases hw : store.convert x.1 x.2 with
        | error err => rfl
        | ok w => exact absurd (Store.contains_of_convert hw) hunknown
      · rcases List.mem_cons.1 hy with rfl | hy
        · exact absurd hc hunknown
        · exact hknown y hy hc
    · split at h
      · next w hw =>
        obtain ⟨hout, hknown⟩ := ih h
        refine ⟨?_, fun y hy hc => ?_⟩
        · rw [hout, store.converted_cons, hw]
          rfl
        · rcases List.mem_cons.1 hy with rfl | hy
          · exact ⟨w, hw⟩
          · exact hknown y hy hc
      · cases h
      · cases h

/-- **All that was checked**, in terms of the snapshot. -/
theorem check_ok_eq {r : Restored} (h : e.check s = .ok r) :
    r.current = s.current ∧ r.cameFrom.entries = s.path.tail.zip s.path ∧ r.selected = s.choices ∧
      r.values.entries = e.store.schema.converted s.values.entries ∧
      ∀ x ∈ s.values.entries, e.store.contains x.1 = true → ∃ w, e.store.convert x.1 x.2 = .ok w := by
  obtain ⟨hcurrent, -, hlinks, hchoices, hsaved⟩ := check_parts h
  obtain ⟨-, hrep, -⟩ := check_ok h
  obtain ⟨hvalues, hknown⟩ := checkedSaved_ok hsaved
  refine ⟨hcurrent, entries_checkedLinks hlinks hrep.nodup, ?_, ?_, hknown⟩
  · exact (checkedChoices_ok hchoices).trans (OrderedMap.insertAll_entries s.choices)
  · rw [hvalues]
    exact OrderedMap.entries_insertAll (s.values.nodup.sublist (e.store.keys_converted s.values.entries))

/-! ## What is put in place -/

/-- What is restored was checked before, and all its values were logged. -/
theorem check_of_restore (accepted : (restore s).outcome e = .ok ()) :
    ∃ r, e.check s = .ok r ∧ Store.logAll r.values.entries = .ok () := by
  cases hr : e.check s with
  | error err =>
    rw [Act.outcome_error (restore_refused hr)] at accepted
    cases accepted
  | ok r =>
    cases hlog : Store.logAll r.values.entries with
    | ok _ => exact ⟨r, rfl, hlog⟩
    | error err =>
      rw [Act.outcome_error (restore_interrupted hr hlog)] at accepted
      cases accepted

/-- **The snapshot is all that is left.** Whatever the engine was before, once it accepted a snapshot, its own
snapshot shows that one: the same position and choices, the same history, or the current step alone if there
is none, and the values of known properties that are not blank, in the form of their properties. What it
holds is no more: the position, the links of that history, the choices, and those values and the blank ones.
A value of a known property is never passed over. -/
theorem restore_shows_snapshot (accepted : (restore s).outcome e = .ok ()) :
    let e' := (restore s).after e
    let values := e.store.schema.converted s.values.entries
    (e'.snapshot.current = s.current ∧
      e'.snapshot.history = (if s.history.isEmpty then s.current.toList else s.history) ∧
      e'.snapshot.choices = s.choices ∧
      e'.snapshot.values.entries = values.filter fun x => !x.2.isBlank) ∧
    (∀ x ∈ s.values.entries, e.store.contains x.1 = true → ∃ w, e.store.convert x.1 x.2 = .ok w) ∧
    e'.current = s.current ∧ e'.cameFrom.entries = s.path.tail.zip s.path ∧ e'.selected = s.choices ∧
      e'.store.values.entries = values := by
  intro e' values
  obtain ⟨r, hr, logged⟩ := check_of_restore accepted
  obtain ⟨told, hafter⟩ := after_restore_of_check hr logged
  obtain ⟨hcurrent, hlinks, hselected, hvalues, hknown⟩ := check_ok_eq hr
  obtain ⟨-, hrep, -⟩ := check_ok hr
  have hcurrent' : e'.current = r.current := congrArg current hafter
  have hlinks' : e'.cameFrom = r.cameFrom := congrArg cameFrom hafter
  have hselected' : e'.selected = r.selected := congrArg selected hafter
  have hvalues' : e'.store.values = r.values := congrArg (fun x => x.store.values) hafter
  refine ⟨⟨hcurrent'.trans hcurrent, ?_, hselected'.trans hselected, ?_⟩, hknown,
    hcurrent'.trans hcurrent, ?_, hselected'.trans hselected, ?_⟩
  · -- The links are those of the path, so that walking back along them gives the path.
    change walkBack e'.cameFrom (e'.cameFrom.size + 1) e'.current [] = s.path
    rw [hlinks', hcurrent']
    exact hrep.path_eq
  · change e'.store.values.entries.filter _ = _
    rw [hvalues', hvalues]
  · rw [hlinks', hlinks]
  · rw [hvalues', hvalues]

/-- In the evening the diary is set back to an evening without a morning: the link to it, the choice made there
and all values are gone. Of the values of the snapshot one is converted, one is blank and one is unknown. -/
theorem diary_shows_snapshot :
    let e := (ofScript diary .empty).run diaryOps
    let s : Snapshot :=
      { current := some 2, values := .ofList [(2, .text " 3 "), (1, .text " "), (9, .bool true)] }
    let e' := (restore s).after e
    e.cameFrom.entries = [(2, 1)] ∧ e.selected.entries = [(1, 7)] ∧ (restore s).outcome e = .ok () ∧
      e'.snapshot.history = [2] ∧ e'.snapshot.choices.entries = [] ∧
      e'.snapshot.values.entries = [(2, .int 3)] ∧ e'.cameFrom.entries = [] ∧
      e'.store.values.entries = [(2, .int 3), (1, .text " ")] := by
  intro e s e'
  have hlinked : e.cameFrom.entries = [(2, 1)] ∧ e.selected.entries = [(1, 7)] := by decide +kernel
  have accepted : (restore s).outcome e = .ok () := Act.outcome_of_toOption (by decide +kernel)
  have hconverted : e.store.schema.converted s.values.entries = [(2, .int 3), (1, .text " ")] :=
    Value.eq_of_same_pairs (by decide +kernel) (by decide +kernel) rfl
  clear_value e
  obtain ⟨⟨-, hhistory, hchoices, hvalues⟩, -, -, hlinks, -, hstore⟩ := restore_shows_snapshot accepted
  rw [hconverted] at hvalues hstore
  exact ⟨hlinked.1, hlinked.2, accepted, hhistory, congrArg OrderedMap.entries hchoices, hvalues, hlinks, hstore⟩

end Engine
end Walkthrough
