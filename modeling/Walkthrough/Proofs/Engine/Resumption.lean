/-
# Runs that are resumed

A snapshot leaves out texts that consist of blanks only, the empty text among them. They count as not filled
in, so that what is required is missed in a restored engine exactly where it was missed before. But they are
not unset: a condition can tell `""` from an unset value, and so can a function. So going on in a restored
engine is going on with those texts unset, and it ends as in the original unless the move consults one of
them (`advance_resumed`).
-/

import Walkthrough.Proofs.Engine.LookAhead
import Walkthrough.Proofs.Engine.RoundTrip

namespace Walkthrough
namespace Engine

variable {e e' : Engine}

/-- A property holds a text of blanks only. -/
def Spaces (e : Engine) (id : Int) : Prop :=
  ∃ text, e.store.value id = .text text ∧ Text.isBlank text = true

/-- The engine with the texts unset that consist of blanks only. -/
def withoutSpaces (e : Engine) : Engine :=
  { e with store := { e.store with values := e.snapshot.values } }

theorem value_withoutSpaces (id : Int) : e.withoutSpaces.store.value id =
    if (e.store.value id).isBlank then .unset else e.store.value id := value_snapshot id

theorem isBlank_withoutSpaces (id : Int) :
    (e.withoutSpaces.store.value id).isBlank = (e.store.value id).isBlank := by
  rw [value_withoutSpaces]
  cases h : (e.store.value id).isBlank with
  | true => rfl
  | false => exact h

/-- Only texts of blanks make a difference. -/
theorem value_withoutSpaces_of_not_spaces {id : Int} (h : ¬e.Spaces id) :
    e.withoutSpaces.store.value id = e.store.value id := by
  rw [value_withoutSpaces]
  split
  · next hblank =>
    cases hv : e.store.value id with
    | unset => rfl
    | text t =>
      rw [hv] at hblank
      exact absurd ⟨t, hv, hblank⟩ h
    | _ =>
      rw [hv] at hblank
      cases hblank
  · rfl

theorem Ready.withoutSpaces (r : e.Ready) : e.withoutSpaces.Ready := by
  refine ⟨r.wellFormed, r.schema, fun id v hv => ?_⟩
  have hmem : (id, v) ∈ e.store.values.entries :=
    (List.mem_filter.1 (OrderedMap.get?_eq_some_iff.1 hv)).1
  exact (r.typed id v (OrderedMap.get?_eq_some_iff.2 hmem)).congr rfl

/-- Two engines that move the same and are listened to the same end the same. -/
theorem outcome_advance_eq (r : e.Ready) (r' : e'.Ready) (current : e'.current = e.current)
    (listeners : e'.bus = e.bus ∨ e.Quiet ∧ e'.Quiet)
    (way : (e'.travel true).1 = (e.travel true).1) : advance.outcome e' = advance.outcome e := by
  rcases listeners with bus | ⟨q, q'⟩
  · have hobjection : (e'.moved (e'.travel true)).firstObjection = (e.moved (e.travel true)).firstObjection := by
      unfold firstObjection objection
      rw [(moved_keeps r true).1.bus, (moved_keeps r' true).1.bus, bus]
    rw [Act.outcome_congr (advance_eq r), Act.outcome_congr (advance_eq r'), outcome_report,
      outcome_report, hobjection, way, current]
  · rw [outcome_advance r q, outcome_advance r' q', way]

/-- **A resumed run.** Let an engine be reached without restoring, and let its snapshot be restored in a new
engine for the same script, with the same functions, which depend on their arguments only, and with the
same listeners or listeners that do not fail. All its values can be logged, so that restoring does not break off
while it writes them. Going on there ends as going on in the original would with its texts of blanks unset: at
the same step, or with the same error. It ends as in the original as it is unless the move consults a text of
blanks. -/
theorem advance_resumed {e₀ e₁ : Engine} (fresh : e₀.Fresh) (fresh' : e₁.Fresh)
    (pure : e₀.registry.Pure) (script : e₁.script.freeze = e₀.script.freeze)
    (functions : e₁.registry.functions = e₀.registry.functions)
    (listeners : e₁.bus = e₀.bus ∨ e₀.Quiet ∧ e₁.Quiet) (ops : List Operation)
    (hops : ∀ op ∈ ops, op.isRestore = false)
    (logged : (e₀.run ops).snapshot.isLoggable = true) :
    let e := e₀.run ops
    let e' := (restore e.snapshot).after e₁
    advance.outcome e' = advance.outcome e.withoutSpaces ∧
      ((∀ id, e.Consults id → ¬e.Spaces id) → advance.outcome e' = advance.outcome e) := by
  intro e e'
  obtain ⟨hk, hr⟩ := run_keeps fresh.ready ops
  obtain ⟨-, hscript, hschema, hsuits⟩ := run_suits fresh fresh' script hops
  obtain ⟨hcurrent, -, hselected, hvalues, -⟩ := restore_of_suits hsuits (Store.logAll_of_areLoggable logged)
  obtain ⟨hk', hr'⟩ := after_keeps fresh'.ready (.restore e.snapshot)
  rw [Operation.act, Act.after_map] at hk' hr'
  have hp : e.registry.Pure := pure.congr hk.functions
  have hvalue : ∀ id, e'.store.value id = e.withoutSpaces.store.value id := fun id =>
    congrArg (fun m => (m.get? id).getD .unset) hvalues
  have hlisteners : e'.bus = e.bus ∨ e.Quiet ∧ e'.Quiet :=
    listeners.imp (fun h => hk'.bus.trans (h.trans hk.bus.symm)) fun h =>
      ⟨hk.quiet h.1, hk'.quiet h.2⟩
  have halike : e.withoutSpaces.Alike e' :=
    ⟨hk'.script.trans hscript, hcurrent, hselected, hk'.schema.trans hschema,
      hk'.functions.trans (functions.trans hk.functions.symm), fun id => congrArg Value.isBlank (hvalue id)⟩
  constructor
  · exact outcome_advance_eq hr.withoutSpaces hr' hcurrent hlisteners
      (halike.travel_eq hp fun id _ => hvalue id)
  · intro hspaces
    have halike' : e.Alike e' :=
      { halike with blank := fun id => (halike.blank id).trans (isBlank_withoutSpaces id) }
    refine outcome_advance_eq hr hr' hcurrent hlisteners (halike'.travel_eq hp fun id hid => ?_)
    rw [hvalue, value_withoutSpaces_of_not_spaces (hspaces id hid)]

/-- A relay that is resumed before its call step goes on as it would have. -/
theorem relay_resumed :
    let e := (ofScript relay echoes).run [.start, .setValue 1 (.text "x")]
    let e' := (restore e.snapshot).after (ofScript relay echoes)
    advance.outcome e = .ok 3 ∧ advance.outcome e' = .ok 3 := by
  intro e e'
  have hadvance : advance.outcome e = .ok 3 := Act.outcome_of_toOption (by decide +kernel)
  have hfilled : ∀ x ∈ e.store.values.entries, ¬x.2.isBlank := by decide +kernel
  obtain ⟨-, hsame⟩ := advance_resumed relay_fresh relay_fresh echoes_pure rfl rfl (.inl rfl)
    [.start, .setValue 1 (.text "x")] (by simp [Operation.isRestore]) (by decide +kernel)
  refine ⟨hadvance, (hsame fun id _ => ?_).trans hadvance⟩
  rintro ⟨text, htext, hblank⟩
  change e.store.value id = .text text at htext
  clear_value e
  cases hv : e.store.values.get? id with
  | none =>
    rw [Store.value, hv] at htext
    cases htext
  | some v =>
    rw [Store.value, hv] at htext
    obtain rfl : v = .text text := htext
    exact hfilled _ (OrderedMap.get?_eq_some_iff.1 hv) hblank

/-- A script that tells an empty note from an unset one. -/
def fussy : Script :=
  let begin := blankSheet.withSay "Begin" {
    id := .int 1
    first := true
    rules := [(some "(a=1) a == \"\"", .int 2), (none, .int 3)] }
  let empty := begin.withSay "Empty" { id := .int 2 }
  empty.withSay "Other" { id := .int 3 }

theorem fussy_fresh : (ofScript fussy .empty).Fresh :=
  ofScript_fresh (((blankSheet_built.withSay _ _).withSay _ _).withSay _ _) .empty

/-- **An empty text is lost**: not every resumed run goes on as the original. -/
theorem fussy_resumed :
    (ofScript fussy .empty).Fresh ∧ (ofScript fussy .empty).Quiet ∧ Registry.empty.Pure ∧
      let e := (ofScript fussy .empty).run [.start, .setValue 1 (.text "")]
      let e' := (restore e.snapshot).after (ofScript fussy .empty)
      advance.outcome e = .ok 2 ∧ advance.outcome e' = .ok 3 := by
  refine ⟨fussy_fresh, ofScript_quiet fussy .empty, ?_, ?_⟩
  · intro key name f h
    cases h
  intro e e'
  exact ⟨Act.outcome_of_toOption (by decide +kernel), Act.outcome_of_toOption (by decide +kernel)⟩

end Engine
end Walkthrough
