/-
# Loading documents

A script that is loaded is built step by step from its document, so all that holds of built scripts holds of
it (`Loads.built`). Its steps and properties are those of the document, and a number has a tag exactly if the
document gives it one that is not empty (`isSome_tag?_tagsOf`).
-/

import Walkthrough.Script.Loaded
import Walkthrough.Proofs.Saved.Codes
import Walkthrough.Proofs.Script.Built

namespace Walkthrough

/-! ## Steps -/

namespace Script

/-- **A script that grew** by steps with some numbers: it is built if it was, its properties stay, and all
other steps were there before. -/
structure Grows (s t : Script) (ids : List Int) : Prop where
  built : s.Built → t.Built
  schema : t.schema = s.schema
  steps : ∀ id, t.hasStep id = true → s.hasStep id = true ∨ id ∈ ids

namespace Grows

variable {s t u : Script}

theorem refl (s : Script) : s.Grows s [] := ⟨id, rfl, fun _ h => .inl h⟩

theorem trans {ids more : List Int} (h : s.Grows t ids) (h' : t.Grows u more) : s.Grows u (ids ++ more) := by
  refine ⟨h'.built ∘ h.built, h'.schema.trans h.schema, fun id hid => ?_⟩
  rw [List.mem_append]
  rcases h'.steps id hid with hid | hid
  · exact (h.steps id hid).imp_right .inl
  · exact .inr (.inr hid)

theorem addStep {text : String} {c : CallDraft} {d : StepDraft} {x : Step}
    (h : s.addStep text c d = .ok (t, x)) : s.Grows t [x.id] := by
  obtain ⟨body, hbody⟩ := addStep_eq_addBody h
  obtain ⟨-, -, -, -, hschema, hsteps⟩ := addBody_cases hbody
  refine ⟨fun b => b.addStep h, hschema, fun id hid => ?_⟩
  obtain ⟨u, hu⟩ := OrderedMap.contains_iff.1 hid
  rcases step?_of_insert hsteps hu with ⟨rfl, -⟩ | hu
  · exact .inr (List.mem_singleton_self _)
  · exact .inl (OrderedMap.contains_iff.2 ⟨u, hu⟩)

/-- A choice is put at a step that is there. -/
theorem addChoice (b : s.Built) {step : Value} {d : ChoiceDraft} {c : Choice}
    (h : s.addChoice step d = .ok (t, c)) : s.Grows t [] := by
  obtain ⟨id, old, hold, -, hschema, hsteps⟩ := addChoice_cases h
  obtain rfl := b.wellFormed.keyed hold
  refine ⟨fun b => b.addChoice h, hschema, fun id hid => .inl ?_⟩
  obtain ⟨u, hu⟩ := OrderedMap.contains_iff.1 hid
  rw [← id_withChoice old c] at hsteps
  rcases step?_of_insert hsteps hu with ⟨rfl, -⟩ | hu
  · rw [id_withChoice]
    exact OrderedMap.contains_iff.2 ⟨old, hold⟩
  · exact OrderedMap.contains_iff.2 ⟨u, hu⟩

end Grows
end Script

/-- The properties of a schema are those that were declared one after the other. -/
theorem Schema.contains_of_foldlM {ps : List Property} {s t : Schema}
    (h : ps.foldlM (fun s p => if s.contains p.id then .error p.id else .ok (s.declare p)) s =
      (.ok t : Except Int Schema)) {id : Int} (hid : t.contains id = true) :
    s.contains id = true ∨ id ∈ ps.map Property.id := by
  induction ps generalizing s with
  | nil =>
    cases h
    exact .inl hid
  | cons p ps ih =>
    rw [List.foldlM_cons] at h
    split at h
    · cases h
    · rw [List.map_cons, List.mem_cons, ← or_assoc]
      refine (ih h).imp_left fun hdeclared => ?_
      rw [contains, declare, OrderedMap.contains_iff] at hdeclared
      obtain ⟨q, hq⟩ := hdeclared
      rw [OrderedMap.get?_insert] at hq
      split at hq
      · next heq => exact .inr heq
      · exact .inl (OrderedMap.contains_iff.2 ⟨q, hq⟩)

theorem Script.contains_of_ofProperties {ps : List Property} {s : Script} (h : ofProperties ps = .ok s)
    {id : Int} (hid : s.schema.contains id = true) : id ∈ ps.map Property.id := by
  unfold ofProperties at h
  split at h
  · cases h
  next schema hschema =>
    split at h
    · cases h
    · cases h
      exact (Schema.contains_of_foldlM hschema hid).resolve_left Bool.false_ne_true

namespace LoadedScript

open Script (Grows)

variable {s t : Script}

theorem addChoices_grows {step : Value} {choices : List ChoiceDraft} (b : s.Built)
    (h : addChoices step s choices = .ok t) : s.Grows t [] := by
  induction choices generalizing s with
  | nil =>
    cases h
    exact .refl _
  | cons c rest ih =>
    unfold addChoices at h
    cases hc : s.addChoice step c with
    | error err => rw [hc] at h; cases h
    | ok r =>
      rw [hc] at h
      have hgrows := Grows.addChoice b hc
      exact hgrows.trans (ih (hgrows.built b) h)

/-- **All steps** come from the records. -/
theorem addSteps_grows {records : List StepRecord} (b : s.Built) (h : addSteps s records = .ok t) :
    s.Grows t (records.map StepRecord.id) := by
  induction records generalizing s with
  | nil =>
    cases h
    exact .refl _
  | cons r rest ih =>
    unfold addSteps at h
    cases hs : s.addStep r.text r.call r.draft with
    | error err => rw [hs] at h; cases h
    | ok added =>
      have hstep := Grows.addStep hs
      obtain ⟨body, hbody⟩ := Script.addStep_eq_addBody hs
      have hid : added.2.id = r.id := by
        have hpositive := (Script.addBody_adds hbody).id
        simp only [StepRecord.draft, Script.positive?] at hpositive
        split at hpositive
        · exact (Option.some.inj hpositive).symm
        · cases hpositive
      rw [hs] at h
      cases hc : addChoices (.int r.id) added.1 r.choices with
      | error err => simp only [bind, Except.bind, hc] at h; cases h
      | ok u =>
        simp only [bind, Except.bind, hc] at h
        have hchoices := addChoices_grows (hstep.built b) hc
        have hrest := ih (hchoices.built (hstep.built b)) h
        have hgrows := (hstep.trans hchoices).trans hrest
        rwa [hid] at hgrows

end LoadedScript

/-! ## Tags -/

/-- The tag that a document gives; an empty one is none. -/
def givenTag (tag : Option String) : Option String := tag.filter (· != "")

/-- **All or nothing**: either all of some things are given tags, or none of them is. -/
def TagsAllOrNone (tags : List (Option String)) : Prop :=
  (∀ tag ∈ tags, (givenTag tag).isSome = true) ∨ ∀ tag ∈ tags, givenTag tag = none

namespace TagMap

variable {m m' : TagMap}

theorem isEmpty_iff : m.isEmpty = true ↔ ∀ id, m.tag? id = none := by
  refine ⟨fun h _ => tag?_of_isEmpty h, fun h => ?_⟩
  rw [TagTables.isEmpty, OrderedMap.isEmpty, List.isEmpty_iff, List.eq_nil_iff_forall_not_mem]
  intro e he
  have hnone := h e.1
  rw [TagTables.tag?, OrderedMap.get?_eq_some_iff.2 he] at hnone
  cases hnone

/-- The numbers that have a tag after numbers were tagged one after the other. -/
theorem mem_keys_of_foldlM {items : List (Int × String)}
    (h : (items.map fun e => (Value.int e.1, e.2)).foldlM (fun m e => m.add e.1 e.2) m = .ok m') (id : Int) :
    id ∈ m'.tags.keys ↔ id ∈ m.tags.keys ∨ id ∈ items.map Prod.fst := by
  induction items generalizing m with
  | nil =>
    cases h
    simp
  | cons e items ih =>
    rw [List.map_cons, List.foldlM_cons] at h
    cases hadd : m.add (.int e.1) e.2 with
    | error err => rw [hadd] at h; cases h
    | ok added =>
      rw [hadd] at h
      obtain ⟨n, hn, htags, -⟩ := add_ok hadd
      obtain rfl := hn e.1 rfl
      have hkeys : id ∈ (m.tags.insert e.1 (Text.strip e.2)).keys ↔ id = e.1 ∨ id ∈ m.tags.keys :=
        OrderedMap.mem_keys_put
      rw [ih h, htags, hkeys, List.map_cons, List.mem_cons, or_assoc, or_left_comm]

end TagMap

namespace LoadedScript

/-- **A number has a tag** if it is given one. -/
theorem isSome_tag?_tagsOf {tagged : List (Int × Option String)} {tags : TagMap} (h : tagsOf tagged = .ok tags)
    (id : Int) : (tags.tag? id).isSome = true ↔ ∃ e ∈ tagged, e.1 = id ∧ (givenTag e.2).isSome = true := by
  have hkeys := TagMap.mem_keys_of_foldlM h id
  have hgiven := OrderedMap.mem_keys_insertAll (m := .empty)
    (tagged.filterMap fun e => (givenTag e.2).map fun tag => (e.1, tag)) id
  have hnone : id ∉ TagMap.empty.tags.keys := List.not_mem_nil
  have hnone' : id ∉ (OrderedMap.empty : OrderedMap Int String).keys := List.not_mem_nil
  rw [TagTables.tag?, Option.isSome_iff_exists, ← OrderedMap.mem_keys_iff, hkeys, or_iff_right hnone]
  refine hgiven.trans ?_
  rw [or_iff_right hnone', List.mem_map]
  constructor
  · rintro ⟨x, hx, rfl⟩
    obtain ⟨e, he, heq⟩ := List.mem_filterMap.1 hx
    obtain ⟨tag, htag, rfl⟩ := Option.map_eq_some_iff.1 heq
    exact ⟨e, he, rfl, Option.isSome_iff_exists.2 ⟨tag, htag⟩⟩
  · rintro ⟨e, he, rfl, hsome⟩
    obtain ⟨tag, htag⟩ := Option.isSome_iff_exists.1 hsome
    exact ⟨(e.1, tag), List.mem_filterMap.2 ⟨e, he, by rw [htag]; rfl⟩, rfl⟩

/-! ## The loaded script -/

/-- **What loading a document gives**: a script that was built, whose steps and properties are those of the
document, and their tags. -/
structure Loads (d : ScriptDocument) (l : LoadedScript) : Prop where
  built : l.script.Built
  steps : ∀ id, l.script.hasStep id = true → id ∈ d.steps.map StepRecord.id
  properties : ∀ id, l.script.schema.contains id = true → id ∈ d.properties.map Property.id
  stepTags : tagsOf (d.steps.map fun r => (r.id, r.tag)) = .ok l.stepTags
  propertyTags : tagsOf (d.properties.map fun p => (p.id, p.tag)) = .ok l.propertyTags

theorem loads_of_build {d : ScriptDocument} {l : LoadedScript} (h : build d = .ok l) : Loads d l := by
  unfold build tags at h
  cases hscript : Script.ofProperties d.properties with
  | error err => rw [hscript] at h; cases h
  | ok s =>
    rw [hscript] at h
    cases hproperties : tagsOf (d.properties.map fun p => (p.id, p.tag)) with
    | error err => rw [hproperties] at h; cases h
    | ok propertyTags =>
      rw [hproperties] at h
      cases hsteps : tagsOf (d.steps.map fun r => (r.id, r.tag)) with
      | error err => rw [hsteps] at h; cases h
      | ok stepTags =>
        rw [hsteps] at h
        simp only [Except.mapError, bind, Except.bind] at h
        cases hadd : addSteps s d.steps with
        | error err => simp only [pure, Except.pure, hadd] at h; cases h
        | ok t =>
          simp only [pure, Except.pure, hadd] at h
          cases h
          have b : s.Built := .ofProperties hscript
          have hgrows := addSteps_grows b hadd
          refine ⟨hgrows.built b, fun id hid => ?_, fun id hid => ?_, hsteps, hproperties⟩
          · refine (hgrows.steps id hid).resolve_left fun hs => ?_
            rw [Script.hasStep, Script.steps_of_ofProperties hscript] at hs
            cases hs
          · rw [hgrows.schema] at hid
            exact Script.contains_of_ofProperties hscript hid

end LoadedScript
end Walkthrough
