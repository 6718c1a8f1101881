/-
# Which states can be saved

A reached state stands on steps of the script, its choices exist, and its values are of the types of their
properties. So nothing in its snapshot keeps it from being saved but a number that has no tag although others
have one (`Saved.faults`), and integers that are too long for a text.

| the document tags | a state can be saved |
| --- | --- |
| all steps or none, and all properties or none | always |
| some of its steps | if all steps of the path and of the choices have tags |
| some of its properties | if all properties with a value that is not blank have tags |
-/

import Walkthrough.Command.Run
import Walkthrough.Proofs.Engine.SavedText
import Walkthrough.Proofs.Engine.Standing
import Walkthrough.Proofs.Saved.Faults
import Walkthrough.Proofs.Script.Loading

namespace Walkthrough

/-- All integers of a snapshot are short enough to be written. -/
structure Snapshot.IsShort (s : Snapshot) : Prop where
  steps : ∀ id ∈ s.stepIds, Value.isShort id = true
  properties : ∀ id ∈ s.propertyIds, Value.isShort id = true
  choices : ∀ choice ∈ s.choices.values, Value.isShort choice = true
  values : ∀ v ∈ s.values.values, v.isPrintable = true

/-- A value of a type has a text if its integer has one. -/
theorem PropertyType.Holds.writable {type : PropertyType} {v : Value} (h : type.Holds v)
    (short : v.isPrintable = true) : Json.Writable (Saved.plainValue v) := by
  cases h with
  | unset => exact .unset
  | bool b => exact .bool b
  | int n => exact .int short
  | double x => exact .float x
  | string s => exact .text s
  | date d => exact .text _
  | dateTime t => exact .text _

namespace Saved

variable {stepTags propertyTags : TagMap} {s : Snapshot}

/-- **There is no fault** if the tags cover all numbers of the snapshot. -/
theorem faults_eq_nil_iff : faults stepTags propertyTags s = [] ↔
    stepTags.Covers s.stepIds ∧ propertyTags.Covers s.propertyIds := by
  unfold faults TagMap.Covers Snapshot.stepIds Snapshot.propertyIds
  simp only [List.append_eq_nil_iff, untagged_eq_nil_iff, List.forall_mem_append]
  tauto

end Saved

namespace Engine

variable {e e' : Engine}

/-! ## What a reached state refers to -/

/-- The selected choices exist. -/
def Selects (e : Engine) : Prop := ∀ x ∈ e.selected.entries, (e.script.choice? x.1 x.2).isSome = true

theorem Selects.keep (h : e.Selects) (script : e'.script.freeze = e.script.freeze)
    (selected : e'.selected = e.selected) : e'.Selects := by
  have hchoice : e'.script.freeze.choice? = e.script.freeze.choice? := congrArg Script.choice? script
  intro x hx
  rw [selected] at hx
  exact (congrArg Option.isSome (congrFun (congrFun hchoice x.1) x.2)).trans (h x hx)

theorem choice?_of_checkedChoices {script : Script} {es : List (Int × Int)} :
    ∀ {selected out : OrderedMap Int Int}, checkedChoices script selected es = .ok out →
      (∀ x ∈ selected.entries, (script.choice? x.1 x.2).isSome = true) →
        ∀ x ∈ out.entries, (script.choice? x.1 x.2).isSome = true := by
  induction es with
  | nil =>
    intro selected out h hselected
    cases h
    exact hselected
  | cons x rest ih =>
    intro selected out h hselected
    unfold checkedChoices at h
    split at h
    · cases h
    · next c hc =>
      refine ih h fun y hy => ?_
      rcases OrderedMap.mem_put hy with rfl | hy
      · exact Option.isSome_iff_exists.2 ⟨c, hc⟩
      · exact hselected y hy

theorem Effect.selects {op : Operation} {x : Except Error (Option Int)} (h : Effect e op x e')
    (hs : e.Selects) : e'.Selects := by
  cases h with
  | refused => exact hs
  | halted => exact hs.keep setOut_keeps.script selected_setOut
  | started => exact hs.keep setOut_keeps.script selected_setOut
  | advanced => exact hs.keep setOut_keeps.script selected_setOut
  | wentBack => exact hs.keep rfl rfl
  | wrote h => exact hs.keep h.script h.selected
  | wroteChoice h => exact hs.keep h.script h.selected
  | chose h known =>
    have hchoice : Script.choice? (Script.freeze _) = Script.choice? (Script.freeze _) :=
      congrArg Script.choice? h.script
    intro x hx
    rcases OrderedMap.mem_put hx with rfl | hx
    · exact (congrArg Option.isSome (congrFun (congrFun hchoice _) _)).trans known
    · refine hs.keep h.script h.selected x ?_
      rw [h.selected]
      exact hx
  | fell => exact hs.keep setOut_keeps.script selected_setOut
  | stumbled => exact hs.keep setOut_keeps.script selected_setOut
  | restored checked =>
    obtain ⟨-, -, -, hchoices, -⟩ := check_parts checked
    have hknown := choice?_of_checkedChoices hchoices fun _ hx => absurd hx List.not_mem_nil
    exact hknown
  | interrupted => exact hs.keep rfl rfl

theorem run_selects (r : e.Ready) (hs : e.Selects) (ops : List Operation) : (e.run ops).Selects := by
  induction ops generalizing e with
  | nil => exact hs
  | cons op rest ih =>
    obtain ⟨x, events, e', told, heffect, hafter, -⟩ := does r op
    have hafter' : (op.act.after e).Selects := by
      rw [hafter]
      exact heffect.selects hs
    exact ih (after_keeps r op).2 hafter'

/-- **The steps in a snapshot** are steps of the script. -/
theorem hasStep_of_mem_stepIds (fresh : e.Fresh) (ops : List Operation) :
    ∀ id ∈ (e.run ops).snapshot.stepIds, e.script.hasStep id = true := by
  obtain ⟨hk, -⟩ := run_keeps fresh.ready ops
  have hstands : ∃ P, (e.run ops).Stands (fun _ => True) P :=
    run_stands fresh.ready (.nil fresh) fun _ _ _ _ => trivial
  obtain ⟨P, hP⟩ := hstands
  have hselects := run_selects fresh.ready (fun x hx => by rw [fresh.selected] at hx; cases hx) ops
  have hpath : ∀ id ∈ P, e.script.hasStep id = true := fun id hid => by
    rw [← Script.hasStep_of_freeze_eq hk.script]
    exact (hP.steps id hid).elim Script.Shows.hasStep fun h => h.2.1
  intro id hid
  rw [Snapshot.stepIds, List.mem_append, List.mem_append] at hid
  rcases hid with (hid | hid) | hid
  · exact hpath id (List.mem_of_getLast? (hP.onPath.last.trans (Option.mem_toList.1 hid)))
  · rw [snapshot, hP.onPath.path_eq] at hid
    exact hpath id hid
  · obtain ⟨x, hx, rfl⟩ := List.mem_map.1 hid
    obtain ⟨c, hc⟩ := Option.isSome_iff_exists.1 (hselects x hx)
    obtain ⟨t, ht, -⟩ := Option.bind_eq_some_iff.1 hc
    rw [← Script.hasStep_of_freeze_eq hk.script]
    exact OrderedMap.contains_iff.2 ⟨t, ht⟩

/-- A value in a snapshot has the form of its property. -/
theorem fits_of_mem_values (typed : e.store.Typed) {x : Int × Value} (h : x ∈ e.snapshot.values.entries) :
    e.store.Fits x.1 x.2 :=
  typed x.1 x.2 (OrderedMap.get?_eq_some_iff.2 (List.mem_filter.1 h).1)

/-! ## Saving -/

theorem toText_of_document {v : Value} (h : Saved.document e.stepTags e.propertyTags e.snapshot = .ok v) :
    e.toText = (Json.write 0 v).mapError .failure := by
  unfold toText Saved.write
  rw [h]
  rfl

theorem toText_of_fault (short : e.snapshot.IsShort) {fault : CodeFault} {rest : List CodeFault}
    (h : Saved.faults e.stepTags e.propertyTags e.snapshot = fault :: rest) :
    e.toText = .error (.script (.code fault)) := by
  unfold toText Saved.write
  rw [Saved.document_eq_orFault _ _ short.steps short.properties, h]
  rfl

theorem exists_toText (typed : e.store.Typed) (short : e.snapshot.IsShort)
    (h : Saved.faults e.stepTags e.propertyTags e.snapshot = []) : ∃ text, e.toText = .ok text := by
  have hvalues : ∀ x ∈ e.snapshot.values.entries, Json.Writable (Saved.plainValue x.2) := fun x hx => by
    obtain ⟨p, -, hconvert⟩ := Store.property_of_convert (fits_of_mem_values typed hx)
    exact (PropertyType.holds_of_convert hconvert).writable (short.values _ (List.mem_map_of_mem hx))
  have hwritable : Json.Writable (Saved.record (Saved.snapshotFields e.stepTags e.propertyTags e.snapshot)) :=
    Saved.writable_document hvalues fun x hx => short.choices _ (List.mem_map_of_mem hx)
  obtain ⟨text, htext⟩ := hwritable.exists_write 0
  have hdocument : Saved.document e.stepTags e.propertyTags e.snapshot =
      .ok (Saved.record (Saved.snapshotFields e.stepTags e.propertyTags e.snapshot)) := by
    rw [Saved.document_eq_orFault _ _ short.steps short.properties, h]
    rfl
  exact ⟨text, (toText_of_document hdocument).trans (congrArg (Except.mapError Error.failure) htext)⟩

/-- A loaded engine is new, and it has the tags of the script. -/
theorem fresh_of_loaded {l : LoadedScript} (b : l.script.Built) {registry : Registry} {marks : Marks}
    (h : l.engine registry marks = .ok e) :
    e.Fresh ∧ e.script = l.script ∧ e.stepTags = l.stepTags ∧ e.propertyTags = l.propertyTags := by
  unfold LoadedScript.engine at h
  cases hcreate : create l.script registry marks with
  | error err => rw [hcreate] at h; cases h
  | ok e₀ =>
    have hfresh := (fresh_of_create b hcreate).tagged l.stepTags l.propertyTags
    have hscript : e₀.script = l.script := by
      unfold create at hcreate
      split at hcreate
      · cases hcreate
      · cases hcreate
        rfl
    rw [hcreate] at h
    cases h
    exact ⟨hfresh, hscript, rfl, rfl⟩

/-- **Tags for all or for none** cover whatever is referred to. -/
theorem covers_of_tagsAllOrNone {tagged : List (Int × Option String)} {tags : TagMap}
    (h : LoadedScript.tagsOf tagged = .ok tags) (uniform : TagsAllOrNone (tagged.map Prod.snd)) {ids : List Int}
    (known : ∀ id ∈ ids, id ∈ tagged.map Prod.fst) : tags.Covers ids := by
  rcases uniform with hall | hnone
  · refine .inr fun id hid => (LoadedScript.isSome_tag?_tagsOf h id).2 ?_
    obtain ⟨x, hx, rfl⟩ := List.mem_map.1 (known id hid)
    exact ⟨x, hx, rfl, hall _ (List.mem_map_of_mem hx)⟩
  · refine .inl (TagMap.isEmpty_iff.2 fun id => ?_)
    rw [← Option.not_isSome_iff_eq_none, LoadedScript.isSome_tag?_tagsOf h]
    rintro ⟨x, hx, -, hsome⟩
    rw [hnone _ (List.mem_map_of_mem hx)] at hsome
    cases hsome

/-- Step tags for all or for none cover the steps of every reached snapshot. -/
theorem stepTags_cover {d : ScriptDocument} {l : LoadedScript} (loads : l.Loads d)
    (uniform : TagsAllOrNone (d.steps.map StepRecord.tag)) (script : e.script = l.script) (fresh : e.Fresh)
    (ops : List Operation) : l.stepTags.Covers (e.run ops).snapshot.stepIds := by
  refine covers_of_tagsAllOrNone loads.stepTags ?_ fun id hid => ?_ <;> rw [List.map_map]
  · exact uniform
  · exact loads.steps id (script ▸ hasStep_of_mem_stepIds fresh ops id hid)

/-- Property tags for all or for none cover the properties of every reached snapshot. -/
theorem propertyTags_cover {d : ScriptDocument} {l : LoadedScript} (loads : l.Loads d)
    (uniform : TagsAllOrNone (d.properties.map Property.tag)) (script : e.script = l.script) (fresh : e.Fresh)
    (ops : List Operation) : l.propertyTags.Covers (e.run ops).snapshot.propertyIds := by
  obtain ⟨hk, hr⟩ := run_keeps fresh.ready ops
  refine covers_of_tagsAllOrNone loads.propertyTags ?_ fun id hid => ?_ <;> rw [List.map_map]
  · exact uniform
  · obtain ⟨x, hx, rfl⟩ := List.mem_map.1 hid
    have hcontains := Store.contains_of_convert (fits_of_mem_values hr.typed hx)
    rw [Store.contains, hk.schema, fresh.ready.schema, script] at hcontains
    exact loads.properties x.1 hcontains

/-- **Which states of a loaded script can be saved.** After any run, restoring included, and as long as all
integers can be written, saving succeeds exactly if nothing that the state refers to lacks a tag where others
have one. If something does, saving breaks off at the first number without a tag. With a document that tags
all of its steps or none, and all of its properties or none, no started session is lost. -/
theorem toText_loaded {d : ScriptDocument} {l : LoadedScript} {registry : Registry} {marks : Marks}
    {e₀ : Engine} (loaded : LoadedScript.build d = .ok l) (created : l.engine registry marks = .ok e₀)
    (ops : List Operation) (short : (e₀.run ops).snapshot.IsShort) :
    let e := e₀.run ops
    let faults := Saved.faults l.stepTags l.propertyTags e.snapshot
    ((∃ text, e.toText = .ok text) ↔
        l.stepTags.Covers e.snapshot.stepIds ∧ l.propertyTags.Covers e.snapshot.propertyIds) ∧
      (∀ fault, faults.head? = some fault → e.toText = .error (.script (.code fault))) ∧
      (TagsAllOrNone (d.steps.map StepRecord.tag) → TagsAllOrNone (d.properties.map Property.tag) →
        ∃ text, e.toText = .ok text ∧ ∀ folder file, e.isStarted = true →
          Command.save folder e (some file) = (folder.write file text).mapError .failure) := by
  intro e faults
  have hloads := LoadedScript.loads_of_build loaded
  obtain ⟨hfresh, hscript, hstepTags, hpropertyTags⟩ := fresh_of_loaded hloads.built created
  obtain ⟨hk, hr⟩ := run_keeps hfresh.ready ops
  have htags : e.stepTags = l.stepTags ∧ e.propertyTags = l.propertyTags :=
    ⟨hk.stepTags.trans hstepTags, hk.propertyTags.trans hpropertyTags⟩
  have hfaults : Saved.faults e.stepTags e.propertyTags e.snapshot = faults := by rw [htags.1, htags.2]
  have hfault : ∀ fault, faults.head? = some fault → e.toText = .error (.script (.code fault)) := by
    intro fault hhead
    obtain ⟨rest, hrest⟩ := List.head?_eq_some_iff.1 hhead
    exact toText_of_fault short (hfaults.trans hrest)
  have hcovers : l.stepTags.Covers e.snapshot.stepIds ∧ l.propertyTags.Covers e.snapshot.propertyIds →
      ∃ text, e.toText = .ok text := fun h =>
    exists_toText hr.typed short (hfaults.trans (Saved.faults_eq_nil_iff.2 h))
  refine ⟨⟨fun ⟨text, htext⟩ => Saved.faults_eq_nil_iff.1 ?_, hcovers⟩, hfault, fun hsteps hproperties => ?_⟩
  · change faults = []
    cases hlist : faults with
    | nil => rfl
    | cons fault rest =>
      have herror := hfault fault (by rw [hlist]; rfl)
      rw [herror] at htext
      cases htext
  · have hstepsCovered := stepTags_cover hloads hsteps hscript hfresh ops
    have hpropertiesCovered := propertyTags_cover hloads hproperties hscript hfresh ops
    obtain ⟨text, htext⟩ := hcovers ⟨hstepsCovered, hpropertiesCovered⟩
    refine ⟨text, htext, fun folder file started => ?_⟩
    unfold Command.save
    simp only [started, Option.filter_some, if_true, htext, bind, Except.bind]

/-! ## A document with some tags -/

/-- The record of a say step. -/
def page (id : Int) (tag : Option String) (text : String) (rules : List (Option String × Int)) : StepRecord where
  id
  tag
  text
  call := Document.noCall
  first := id == 1
  defaults := .empty
  required := []
  rules
  choices := []

/-- Two pages, the first of which has a tag. -/
def sketch : ScriptDocument where
  name := "sketch"
  version := .text "1"
  description := ""
  properties := [note, pages]
  steps := [page 1 (some "up") "Up" [(none, 2)], page 2 none "Down" []]

/-- On the first page, all that there is to save has a tag. -/
theorem sketch_saved : ∃ l e₀, LoadedScript.build sketch = .ok l ∧ l.engine .empty {} = .ok e₀ ∧
    (e₀.run [.start, .setValue 2 (.int 7)]).snapshot.IsShort ∧
    ∃ text, (e₀.run [.start, .setValue 2 (.int 7)]).toText = .ok text := by
  let ops : List Operation := [.start, .setValue 2 (.int 7)]
  have hfacts : ((LoadedScript.build sketch).toOption.bind fun l => (l.engine .empty {}).toOption.map fun e₀ =>
      let s := (e₀.run ops).snapshot
      decide (s.stepIds = [1, 1] ∧ s.propertyIds = [2] ∧ s.choices.values = [] ∧
        Value.sameItems s.values.values [.int 7] ∧ l.stepTags.tag? 1 = some "up" ∧ l.propertyTags.isEmpty)) =
      some true := by decide +kernel
  obtain ⟨l, hl, hengine⟩ := Option.bind_eq_some_iff.1 hfacts
  obtain ⟨e₀, he, hall⟩ := Option.map_eq_some_iff.1 hengine
  obtain ⟨hsteps, hproperties, hchoices, hsame, htag, hempty⟩ := of_decide_eq_true hall
  have hvalues := Value.eq_of_sameItems hsame rfl
  have hone : Value.isShort 1 = true := by decide +kernel
  have htwo : Value.isShort 2 = true := by decide +kernel
  have hseven : (Value.int 7).isPrintable = true := by decide +kernel
  have hshort : (e₀.run ops).snapshot.IsShort := by
    refine ⟨?_, ?_, ?_, ?_⟩
    · simp [hsteps, hone]
    · simp [hproperties, htwo]
    · simp [hchoices]
    · simp [hvalues, hseven]
  have hloaded := ok_of_toOption hl
  have hcreated := ok_of_toOption he
  refine ⟨l, e₀, hloaded, hcreated, hshort, (toText_loaded hloaded hcreated _ hshort).1.2 ⟨.inr ?_, .inl hempty⟩⟩
  rw [hsteps]
  simp [htag]

/-- **Not every reached state can be saved**: the second page has no tag, and a number can be too long. -/
theorem sketch_not_saved : ∃ l e₀, LoadedScript.build sketch = .ok l ∧ l.engine .empty {} = .ok e₀ ∧
    (e₀.run [.start, .advance]).toText = .error (.script (.code (.untaggedStep .step 2))) ∧
    ∃ n, (e₀.run [.start, .setValue 2 (.int n)]).toText = .error (.failure (.usage .tooManyDigits)) := by
  have hfacts : ((LoadedScript.build sketch).toOption.bind fun l => (l.engine .empty {}).toOption.map fun e₀ =>
      ((e₀.run [.start, .advance]).toText.mapError Error.code?,
        (e₀.run [.start, .setValue 2 (.int Number.myriads)]).toText.mapError Error.isTooManyDigits)) =
      some (.error (some (.untaggedStep .step 2)), .error true) := by decide +kernel
  obtain ⟨l, hl, hengine⟩ := Option.bind_eq_some_iff.1 hfacts
  obtain ⟨e₀, he, htuple⟩ := Option.map_eq_some_iff.1 hengine
  obtain ⟨huntagged, hlong⟩ := Prod.mk.inj htuple
  obtain ⟨err, herr, hcode⟩ := mapError_eq_error_iff.1 huntagged
  obtain ⟨err', herr', hdigits⟩ := mapError_eq_error_iff.1 hlong
  refine ⟨l, e₀, ok_of_toOption hl, ok_of_toOption he, ?_, Number.myriads, ?_⟩
  · rw [herr, Error.eq_of_code? hcode]
  · rw [herr', Error.eq_of_isTooManyDigits hdigits]

end Engine
end Walkthrough
