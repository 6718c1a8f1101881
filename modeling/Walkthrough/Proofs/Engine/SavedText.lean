/-
# Saved texts restore the run

A snapshot of a reached state is written as text and read back (`Saved.read_write`), but for days and
moments, which come back as texts. Only the type of their property tells them apart from other texts: it
converts them to what they were (`convert_plainValue`), and leaves every other value as it is. So the
text is accepted wherever the snapshot is, with the same effect (`Suits.restore_plain`).

| part of the text | is read back because |
| --- | --- |
| numbers of steps, properties | all are positive, or all have tags that differ |
| numbers of choices | they are positive |
| history | it does not repeat, so its links are in a row |
| values | each is of the type of its property |
-/

import Walkthrough.Proofs.Calendar.Iso
import Walkthrough.Proofs.Engine.RoundTrip
import Walkthrough.Proofs.Saved.RoundTrip
import Walkthrough.Proofs.Script.Numbers

namespace Walkthrough

/-! ## What a text holds -/

/-- The numbers of steps that occur in a snapshot. -/
def Snapshot.stepIds (s : Snapshot) : List Int := s.current.toList ++ s.history ++ s.choices.keys

/-- The numbers of properties that occur in a snapshot. -/
def Snapshot.propertyIds (s : Snapshot) : List Int := s.values.keys

/-- **A map for some numbers**: it is empty, or it has a tag for each of them. -/
def TagMap.Covers (tags : TagMap) (ids : List Int) : Prop :=
  tags.isEmpty = true ∨ ∀ id ∈ ids, (tags.tag? id).isSome = true

/-- A value that a text holds exactly: an integer that is not too long for a text, a float whose text is
read back as it, and every value of another kind. -/
def Value.IsExact : Value → Prop
  | .int n => isShort n = true
  | .float x => Json.IsExact x
  | _ => True

/-- A snapshot that a text holds exactly, with its integers and floats. Numbers of properties are written also
where they have tags: into the log, when they are restored. -/
structure Snapshot.IsExact (stepTags : TagMap) (s : Snapshot) : Prop where
  steps : stepTags.isEmpty = true → ∀ id ∈ s.stepIds, Value.isShort id = true
  properties : ∀ id ∈ s.propertyIds, Value.isShort id = true
  choices : ∀ choice ∈ s.choices.values, Value.isShort choice = true
  values : ∀ v ∈ s.values.values, v.IsExact

theorem TagMap.Covers.hasCode {tags : TagMap} {ids : List Int} {id : Int} (h : tags.Covers ids)
    (short : tags.isEmpty = true → ∀ id ∈ ids, Value.isShort id = true) (pos : 0 < id) (mem : id ∈ ids) :
    Saved.HasCode tags id := by
  unfold Saved.HasCode
  split
  · next empty => exact ⟨pos, short empty id mem⟩
  · next filled => exact Option.isSome_iff_exists.1 (h.resolve_left filled id mem)

namespace PropertyType

variable {type : PropertyType} {v : Value}

/-- **A type knows its values** in the form in which they stand in a text. -/
theorem convert_plainValue (h : type.convert v = .ok v) : type.convert (Saved.plainValue v) = .ok v := by
  cases holds_of_convert h with
  | date d =>
    have hread : toDate? (.text d.text) = some d := by
      rw [toDate?, Calendar.Date.strip_text, Calendar.Date.read?_text]
    simp only [Saved.plainValue, convert, form?, hread, Option.map_some]
  | dateTime t =>
    have hread : toDateTime? (.text (t.text "T")) = some t := by
      rw [toDateTime?, show "T" = String.singleton 'T' from rfl, Calendar.DateTime.strip_text t (by decide),
        Calendar.DateTime.read?_text]
    simp only [Saved.plainValue, convert, form?, hread, Option.map_some]
  | _ => exact h

/-- A value of a type is no list and no dictionary, so that JSON can hold it. -/
theorem Holds.readable (h : type.Holds v) (hv : v.IsExact) (depth : Nat) :
    Json.Readable depth (Saved.plainValue v) := by
  cases h with
  | unset => exact .unset
  | bool b => exact .bool b
  | int n => exact .int hv
  | double x => exact .float hv
  | string s => exact .text s
  | date d => exact .text _
  | dateTime t => exact .text _

/-- A value of a type that a text holds exactly can be logged. -/
theorem Holds.isPrintable (h : type.Holds v) (hv : v.IsExact) : v.isPrintable = true := by
  cases h with
  | int n => exact hv
  | _ => rfl

end PropertyType

/-- What a text holds exactly can be logged when it is restored. -/
theorem Snapshot.IsExact.isLoggable {s : Snapshot} {stepTags : TagMap} {store : Store} (hexact : s.IsExact stepTags)
    (typed : ∀ x ∈ s.values.entries, store.Fits x.1 x.2) : s.isLoggable = true := by
  refine List.all_eq_true.2 fun x hx => ?_
  obtain ⟨p, -, hconvert⟩ := Store.property_of_convert (typed x hx)
  exact Bool.and_eq_true_iff.2 ⟨hexact.properties _ (List.mem_map_of_mem hx),
    (PropertyType.holds_of_convert hconvert).isPrintable (hexact.values _ (List.mem_map_of_mem hx))⟩

namespace Engine

variable {e e' : Engine} {s : Snapshot} {stepTags propertyTags : TagMap} {P : List Int}

/-! ## Writing -/

/-- **The snapshot of a reached state can be saved.** -/
theorem Tracked.saveable (h : e.Tracked P) (typed : e.store.Typed) (numbered : e.script.Numbered)
    (steps : stepTags.Covers e.snapshot.stepIds) (properties : propertyTags.Covers e.snapshot.propertyIds)
    (hexact : e.snapshot.IsExact stepTags) :
    Saved.Saveable stepTags propertyTags e.snapshot := by
  have hpath : e.snapshot.history = P := h.onPath.path_eq
  have hpos : ∀ step ∈ P, 0 < step := fun step hs => by
    obtain ⟨t, ht, -⟩ := h.shows step hs
    exact numbered.step ht
  have hcode {step : Int} (pos : 0 < step) (mem : step ∈ e.snapshot.stepIds) : Saved.HasCode stepTags step :=
    steps.hasCode hexact.steps pos mem
  refine ⟨fun step hc => ?_, ?_, fun step hs => ?_, fun x hx => ?_, fun x hx => ?_⟩
  · have hmem : step ∈ P := List.mem_of_getLast? (h.onPath.last.trans hc)
    refine hcode (hpos step hmem) (List.mem_append_left _ (List.mem_append_left _ ?_))
    rw [hc]
    exact List.mem_singleton_self step
  · rw [hpath]
    exact h.onPath.nodup
  · exact hcode (hpos step (hpath ▸ hs)) (List.mem_append_left _ (List.mem_append_right _ hs))
  · have hfits : e.store.Fits x.1 x.2 :=
      typed x.1 x.2 (OrderedMap.get?_eq_some_iff.2 (List.mem_filter.1 hx).1)
    obtain ⟨p, -, hconvert⟩ := Store.property_of_convert hfits
    refine ⟨properties.hasCode (fun _ => hexact.properties) hfits.id_pos (List.mem_map_of_mem hx), ?_⟩
    exact (PropertyType.holds_of_convert hconvert).readable (hexact.values _ (List.mem_map_of_mem hx))
  · obtain ⟨hstep, hchoice⟩ := numbered.pos_of_choice? (h.choices x hx)
    refine ⟨hcode hstep (List.mem_append_right _ (List.mem_map_of_mem hx)), hchoice, ?_⟩
    exact hexact.choices _ (List.mem_map_of_mem hx)

/-! ## Reading -/

/-- A snapshot with its days and moments as texts is accepted where the snapshot is, and as the same. -/
theorem Suits.check_plain (h : e.Suits s) : e.check (Saved.plain s) = e.check s := by
  have hconvert : ∀ x ∈ s.values.entries, e.store.convert x.1 (Saved.plainValue x.2) = .ok x.2 := by
    intro x hx
    obtain ⟨p, hp, hv⟩ := Store.property_of_convert (h.values x hx)
    rw [Store.convert, Store.property, hp]
    exact PropertyType.convert_plainValue hv
  have hplain : checkedSaved e.store .empty (Saved.plain s).values.entries =
      checkedSaved e.store .empty s.values.entries :=
    (checkedSaved_of_convert hconvert).trans (checkedSaved_eq h.values).symm
  unfold check
  rw [hplain]
  rfl

theorem Suits.restore_plain (h : e.Suits s) : restore (Saved.plain s) e = restore s e := by
  rw [restore_eq, restore_eq, h.check_plain]

theorem restoreText_eq {text : String} (h : Saved.read e.stepTags e.propertyTags text = .ok s) :
    restoreText text e = restore s e := by
  unfold restoreText
  rw [Act.bind_ok (Act.get_eq e), h]
  exact Act.bind_ok rfl

/-! ## The round trip -/

/-- An engine with tags for its steps and properties. -/
def tagged (e : Engine) (stepTags propertyTags : TagMap) : Engine :=
  { e with stepTags := stepTags, propertyTags := propertyTags }

theorem Fresh.tagged (f : e.Fresh) (stepTags propertyTags : TagMap) :
    (e.tagged stepTags propertyTags).Fresh := ⟨f.built, f.store, f.current, f.cameFrom, f.selected⟩

/-- **Every value is of the type of its property** as the script declares it. -/
theorem Ready.holds (r : e.Ready) {id : Int} {p : Property} (hp : e.script.schema.get? id = some p) :
    p.type.Holds (e.store.value id) := by
  rw [Store.value]
  cases hv : e.store.values.get? id with
  | none => exact .unset
  | some v =>
    obtain ⟨q, hq, hconvert⟩ := Store.property_of_convert (r.typed id v hv)
    rw [r.schema, hp] at hq
    cases hq
    exact PropertyType.holds_of_convert hconvert

/-- **The round trip through a text.** The state that was reached without restoring is saved as a text if
there are no tags or enough of them, and if a text holds its numbers exactly. Every new engine for the
script accepts the text with the same tags. Its snapshot is the same then, and its values that were not
blank are the same, days and moments included: each is of the type of its property again. -/
theorem restoreText_toText {e₀ e₁ : Engine} (fresh : e₀.Fresh) (fresh' : e₁.Fresh) (quiet : e₁.Quiet)
    (script : e₁.script.freeze = e₀.script.freeze) (ops : List Operation)
    (hops : ∀ op ∈ ops, op.isRestore = false) (bs : stepTags.Built) (bp : propertyTags.Built)
    (steps : stepTags.Covers (e₀.run ops).snapshot.stepIds)
    (properties : propertyTags.Covers (e₀.run ops).snapshot.propertyIds)
    (hexact : (e₀.run ops).snapshot.IsExact stepTags) :
    let e := (e₀.run ops).tagged stepTags propertyTags
    ∃ text, e.toText = .ok text ∧
      let e' := (restoreText text).after (e₁.tagged stepTags propertyTags)
      (restoreText text).outcome (e₁.tagged stepTags propertyTags) = .ok () ∧
        e'.snapshot = e.snapshot ∧
        (∀ id, e'.store.value id = if (e.store.value id).isBlank then .unset else e.store.value id) ∧
        ∀ id p, e₀.script.schema.get? id = some p → p.type.Holds (e'.store.value id) := by
  intro e
  have hfresh := fresh'.tagged stepTags propertyTags
  obtain ⟨⟨P, hP⟩, -, -, hsuits⟩ := run_suits fresh hfresh script hops
  obtain ⟨hk, hr⟩ := run_keeps fresh.ready ops
  have numbered := fresh.built.numbered.of_freeze_eq hk.script
  obtain ⟨text, hwrite, hread⟩ :=
    Saved.read_write bs bp (hP.saveable hr.typed numbered steps properties hexact)
  -- Restoring the text is restoring the snapshot, for which all of this is known.
  have htext : restoreText text (e₁.tagged stepTags propertyTags) = restore (Saved.plain _) _ :=
    restoreText_eq hread
  have heq := htext.trans hsuits.restore_plain
  have logged := Store.logAll_of_areLoggable (hexact.isLoggable hsuits.values)
  obtain ⟨-, -, -, -, hout⟩ := restore_of_suits hsuits logged
  obtain ⟨-, hvalues, hsnapshot⟩ := hP.restored hsuits logged
  obtain ⟨hk', hr'⟩ := after_keeps hfresh.ready (.restore (e₀.run ops).snapshot)
  rw [Operation.act, Act.after_map] at hk' hr'
  refine ⟨text, hwrite, ?_⟩
  rw [Act.after_congr heq, Act.outcome_congr heq]
  refine ⟨hout quiet, hsnapshot, hvalues, fun id p hp => hr'.holds ?_⟩
  have hschema := congrArg Script.schema (hk'.script.trans script)
  exact (congrArg (fun s => s.get? id) hschema).trans hp

/-! ## A diary -/

/-- A property for whole numbers. -/
def pages : Property := ⟨2, "pages", .int, none, by decide, by decide⟩

/-- Properties of the types whose values look alike in a text. -/
def diaryProperties : List Property :=
  [note, pages, ⟨3, "sure", .bool, none, by decide, by decide⟩,
    ⟨4, "day", .date, none, by decide, by decide⟩, ⟨5, "moment", .dateTime, none, by decide, by decide⟩]

/-- A script without steps over those properties. -/
def blankDiary : Script := ⟨diaryProperties.foldl Schema.declare .empty, .empty, none, false⟩

theorem blankDiary_built : blankDiary.Built :=
  .ofProperties (show Script.ofProperties diaryProperties = .ok blankDiary from rfl)

/-- Two pages, with a choice on the first one. -/
def diary : Script :=
  let morning := blankDiary.withSay "Morning" { id := .int 1, first := true, rules := [(none, .int 2)] }
  let choice : ChoiceDraft := { id := .int 7, text := "Yes", values := .ofList [(3, .text "yes")] }
  (morning.added (morning.addChoice (.int 1) choice)).withSay "Evening" { id := .int 2 }

theorem diary_built : diary.Built :=
  have morning := blankDiary_built.withSay _ _
  (morning.added fun _ _ h => morning.addChoice h).withSay _ _

theorem diary_fresh : (ofScript diary .empty).Fresh := ofScript_fresh diary_built .empty

/-- Tags for its pages. -/
def diaryTags : TagMap := (TagMap.ofList? [(.int 1, "morning"), (.int 2, "evening")]).toOption.getD .empty

theorem diaryTags_built : diaryTags.Built := by
  unfold diaryTags
  cases h : TagMap.ofList? [(.int 1, "morning"), (.int 2, "evening")] with
  | ok tags => exact TagMap.built_of_ofList? h
  | error err => exact .empty

/-- A leap day. -/
def leapDay : Calendar.Date := ⟨2024, 2, 29, rfl⟩

/-- A moment on that day, with a fraction of a second and an offset. -/
def leapMoment : Calendar.DateTime := ⟨leapDay, ⟨23, 59, 58, 1, by decide⟩, some ⟨19800000000, by decide⟩⟩

/-- The diary of that day: one property holds as a text what another one holds as a day. -/
def diaryOps : List Operation :=
  [.start, .setValue 1 (.text "2024-02-29"), .setValue 2 (.text " 12 "), .setValue 4 (.text "2024-02-29"),
    .setValue 5 (.text "2024-02-29T23:59:58.000001+05:30"), .selectChoice 1 7, .advance]

/-- Steps are written by their tags, properties by their numbers. -/
theorem diary_restored :
    let e := ((ofScript diary .empty).run diaryOps).tagged diaryTags .empty
    ∃ text, e.toText = .ok text ∧
      let e' := (restoreText text).after ((ofScript diary echoes).tagged diaryTags .empty)
      (restoreText text).outcome ((ofScript diary echoes).tagged diaryTags .empty) = .ok () ∧
        e'.snapshot = e.snapshot ∧ e'.store.value 1 = .text "2024-02-29" ∧
        e'.store.value 4 = .date leapDay ∧ e'.store.value 5 = .dateTime leapMoment := by
  intro e
  have hvalues : ((ofScript diary .empty).run diaryOps).snapshot.values.values =
      [.text "2024-02-29", .int 12, .date leapDay, .dateTime leapMoment, .bool true] :=
    Value.eq_of_sameItems (by decide +kernel) rfl
  have hexact : ((ofScript diary .empty).run diaryOps).snapshot.IsExact diaryTags := by
    refine ⟨by decide +kernel, by decide +kernel, by decide +kernel, ?_⟩
    rw [hvalues]
    simpa [Value.IsExact] using show Value.isShort 12 = true by decide +kernel
  obtain ⟨text, hwrite, hout, hsnapshot, hvalue, -⟩ := restoreText_toText diary_fresh
    (ofScript_fresh diary_built echoes) (ofScript_quiet _ _) rfl
    diaryOps (by simp [diaryOps, Operation.isRestore]) diaryTags_built .empty (.inr (by decide +kernel))
    (.inl rfl) hexact
  have hnote : e.store.value 1 = .text "2024-02-29" := Value.eq_of_same (by decide +kernel) rfl
  have hday : e.store.value 4 = .date leapDay := Value.eq_of_same (by decide +kernel) rfl
  have hmoment : e.store.value 5 = .dateTime leapMoment := Value.eq_of_same (by decide +kernel) rfl
  refine ⟨text, hwrite, hout, hsnapshot, (hvalue 1).trans ?_, (hvalue 4).trans ?_, (hvalue 5).trans ?_⟩
  · rw [hnote]
    rfl
  · rw [hday]
    rfl
  · rw [hmoment]
    rfl

end Engine
end Walkthrough
