/-
# Snapshots are read back

The document of a snapshot is written in full (`Storable.document_eq`), is a value that JSON can hold
(`Storable.readable_document`), and gives back its parts (`parts?_record`, `Storable.read_written`), whatever order
the links of its history have. The parts give back the snapshot with the numbers that its codes are read as, if no
two of them collide (`snapshot_linkedParts`). With the same tags these are the numbers that were written: a snapshot
whose numbers have codes and whose values a document can hold is read back from its text, with its days and
moments as texts (`Storable.read_write`).
-/

import Walkthrough.Proofs.Json.RoundTrip
import Walkthrough.Proofs.Saved.Codes
import Walkthrough.Proofs.Saved.History

namespace Walkthrough
namespace Saved

variable {stepTags propertyTags : TagMap} {s : Snapshot}

/-! ## Snapshots that can be saved -/

/-- **What can be saved**: the numbers of steps and properties have codes, those of choices are positive and
can be written, the path does not repeat, and JSON can hold the values. -/
structure Saveable (stepTags propertyTags : TagMap) (s : Snapshot) : Prop where
  current : ∀ step, s.current = some step → HasCode stepTags step
  nodup : s.history.Nodup
  history : ∀ step ∈ s.history, HasCode stepTags step
  values : ∀ x ∈ s.values.entries, HasCode propertyTags x.1 ∧ ∀ depth, Json.Readable depth (plainValue x.2)
  choices : ∀ x ∈ s.choices.entries, HasCode stepTags x.1 ∧ 0 < x.2 ∧ Value.isShort x.2 = true

/-- The levels of nesting that a document leaves to a value: the document, a list and a record are around it. -/
def valueDepth : Nat := 197

/-- **What a document can hold.** This is what can be saved, but values may also be lists and objects, as deep as a
document leaves room for them. -/
structure Storable (stepTags propertyTags : TagMap) (s : Snapshot) : Prop where
  current : ∀ step, s.current = some step → HasCode stepTags step
  nodup : s.history.Nodup
  history : ∀ step ∈ s.history, HasCode stepTags step
  values : ∀ x ∈ s.values.entries, HasCode propertyTags x.1 ∧ Json.Readable valueDepth (plainValue x.2)
  choices : ∀ x ∈ s.choices.entries, HasCode stepTags x.1 ∧ 0 < x.2 ∧ Value.isShort x.2 = true

theorem Saveable.storable (h : Saveable stepTags propertyTags s) : Storable stepTags propertyTags s where
  current := h.current
  nodup := h.nodup
  history := h.history
  values x hx := ⟨(h.values x hx).1, (h.values x hx).2 valueDepth⟩
  choices := h.choices

/-! ## The document -/

/-- The fields of a link. -/
def linkFields (tags : TagMap) (link : Int × Option Int) : List (String × Value) :=
  [("step_id", .text (codeOf tags link.1)), ("prev_step_id", .text (optionalCodeOf tags link.2))]

/-- The fields of a value. -/
def variableFields (tags : TagMap) (x : Int × Value) : List (String × Value) :=
  [("name", .text (codeOf tags x.1)), ("value", plainValue x.2)]

/-- The fields of a choice. -/
def choiceFields (tags : TagMap) (x : Int × Int) : List (String × Value) :=
  [("step_id", .text (codeOf tags x.1)), ("choise", .int x.2)]

/-- The fields of a snapshot. -/
def snapshotFields (stepTags propertyTags : TagMap) (s : Snapshot) : List (String × Value) :=
  [("step_id", .text (optionalCodeOf stepTags s.current)),
    ("variables", .list (s.values.entries.map fun x => record (variableFields propertyTags x))),
    ("history", .list ((linksOf none s.history).map fun l => record (linkFields stepTags l))),
    ("choises", .list (s.choices.entries.map fun x => record (choiceFields stepTags x)))]

/-- The fields of a snapshot with other links of its history, or with the same in another order. -/
def linkedFields (stepTags propertyTags : TagMap) (s : Snapshot) (es : List (Int × Option Int)) :
    List (String × Value) :=
  [("step_id", .text (optionalCodeOf stepTags s.current)),
    ("variables", .list (s.values.entries.map fun x => record (variableFields propertyTags x))),
    ("history", .list (es.map fun l => record (linkFields stepTags l))),
    ("choises", .list (s.choices.entries.map fun x => record (choiceFields stepTags x)))]

theorem linkRecords_eq {tags : TagMap} (b : tags.Built) {path : List Int} {previous : Option Int}
    (hpath : ∀ step ∈ path, HasCode tags step) (hprevious : ∀ step, previous = some step → HasCode tags step) :
    linkRecords tags previous path =
      .ok ((linksOf previous path).map fun l => record (linkFields tags l)) := by
  induction path generalizing previous with
  | nil => rfl
  | cons step rest ih =>
    have hstep := hpath step List.mem_cons_self
    have hrest := ih (fun x hx => hpath x (List.mem_cons_of_mem _ hx)) fun x hx => Option.some.inj hx ▸ hstep
    rw [linkRecords, (hstep.codes b).stepCode, stepCode_optional fun id hid => (hprevious id hid).codes b, hrest]
    rfl

theorem variableRecords_eq {tags : TagMap} (b : tags.Built) {es : List (Int × Value)}
    (h : ∀ x ∈ es, HasCode tags x.1) :
    variableRecords tags es = .ok (es.map fun x => record (variableFields tags x)) := by
  induction es with
  | nil => rfl
  | cons x rest ih =>
    rw [variableRecords, ((h x List.mem_cons_self).codes b).propertyCode,
      ih fun y hy => h y (List.mem_cons_of_mem _ hy)]
    rfl

theorem choiceRecords_eq {tags : TagMap} (b : tags.Built) {es : List (Int × Int)}
    (h : ∀ x ∈ es, HasCode tags x.1) :
    choiceRecords tags es = .ok (es.map fun x => record (choiceFields tags x)) := by
  induction es with
  | nil => rfl
  | cons x rest ih =>
    rw [choiceRecords, ((h x List.mem_cons_self).codes b).stepCode,
      ih fun y hy => h y (List.mem_cons_of_mem _ hy)]
    rfl

/-- **The document** of a snapshot that it can hold. -/
theorem Storable.document_eq (bs : stepTags.Built) (bp : propertyTags.Built) (h : Storable stepTags propertyTags s) :
    document stepTags propertyTags s = .ok (record (snapshotFields stepTags propertyTags s)) := by
  have hhistory : linkRecords stepTags none s.history = _ :=
    linkRecords_eq bs h.history fun _ hnone => nomatch hnone
  have hvalues := variableRecords_eq bp fun x hx => (h.values x hx).1
  have hchoices := choiceRecords_eq bs fun x hx => (h.choices x hx).1
  unfold document
  rw [stepCode_optional fun id hid => (h.current id hid).codes bs, hhistory, hvalues, hchoices]
  rfl

theorem document_eq (bs : stepTags.Built) (bp : propertyTags.Built) (h : Saveable stepTags propertyTags s) :
    document stepTags propertyTags s = .ok (record (snapshotFields stepTags propertyTags s)) :=
  h.storable.document_eq bs bp

/-! ## JSON can hold it -/

/-- A list of records, each of which has the fields of an entry. -/
theorem readable_records {α : Type} {depth : Nat} {es : List α} {fields : α → List (String × Value)}
    (names : ∀ e ∈ es, ((fields e).map Prod.fst).Nodup)
    (h : ∀ e ∈ es, ∀ f ∈ fields e, Json.Readable depth f.2) :
    Json.Readable (depth + 2) (.list (es.map fun e => record (fields e))) := by
  refine .list fun v hv => ?_
  obtain ⟨e, he, rfl⟩ := List.mem_map.1 hv
  exact .object (names e he) (h e he)

/-- **JSON can hold the document** of a snapshot, whatever links it has. -/
theorem Storable.readable_document (h : Storable stepTags propertyTags s) (es : List (Int × Option Int)) :
    Json.Readable Json.maxDepth (record (linkedFields stepTags propertyTags s es)) := by
  have hlinks : Json.Readable 199 (.list (es.map fun l => record (linkFields stepTags l))) :=
    readable_records (fun _ _ => show ["step_id", "prev_step_id"].Nodup by decide) fun l _ =>
      List.forall_mem_cons.2 ⟨.text _, List.forall_mem_singleton.2 (.text _)⟩
  have hvalues : Json.Readable 199
      (.list (s.values.entries.map fun x => record (variableFields propertyTags x))) :=
    readable_records (fun _ _ => show ["name", "value"].Nodup by decide) fun x hx =>
      List.forall_mem_cons.2 ⟨.text _, List.forall_mem_singleton.2 (h.values x hx).2⟩
  have hchoices : Json.Readable 199
      (.list (s.choices.entries.map fun x => record (choiceFields stepTags x))) :=
    readable_records (fun _ _ => show ["step_id", "choise"].Nodup by decide) fun x hx =>
      List.forall_mem_cons.2 ⟨.text _, List.forall_mem_singleton.2 (.int (h.choices x hx).2.2)⟩
  have hnames : ["step_id", "variables", "history", "choises"].Nodup := by decide
  refine .object hnames (List.forall_mem_cons.2 ⟨.text _, List.forall_mem_cons.2 ⟨hvalues, ?_⟩⟩)
  exact List.forall_mem_cons.2 ⟨hlinks, List.forall_mem_singleton.2 hchoices⟩

/-! ## Its parts -/

open Document (record? field? required? optional? list? namedEntry?)

/-- A list of items that can all be read. -/
theorem mapM_map {α β γ : Type} {item? : β → Option γ} {f : α → β} {g : α → γ}
    (h : ∀ e, item? (f e) = some (g e)) (es : List α) : (es.map f).mapM item? = some (es.map g) := by
  induction es with
  | nil => rfl
  | cons e rest ih =>
    rw [List.map_cons, List.mapM_cons, h, ih]
    rfl

theorem record?_record (fields : List (String × Value)) : record? (record fields) = some fields := by
  have hfield (f : String × Value) : namedEntry? (.text f.1, f.2) = some f := rfl
  exact (mapM_map hfield fields).trans (congrArg some (List.map_id fields))

/-- The parts of the document of a snapshot. -/
def partsOf (stepTags propertyTags : TagMap) (s : Snapshot) : Parts where
  step := optionalCodeOf stepTags s.current
  values := s.values.entries.map fun x => ⟨codeOf propertyTags x.1, plainValue x.2⟩
  history := (linksOf none s.history).map fun l => ⟨codeOf stepTags l.1, optionalCodeOf stepTags l.2⟩
  choices := s.choices.entries.map fun x => ⟨codeOf stepTags x.1, toString x.2⟩

/-- The parts of such a document with the links `es` of its history. -/
def linkedParts (stepTags propertyTags : TagMap) (s : Snapshot) (es : List (Int × Option Int)) : Parts :=
  { partsOf stepTags propertyTags s with
    history := es.map fun l => ⟨codeOf stepTags l.1, optionalCodeOf stepTags l.2⟩ }

theorem link?_record (tags : TagMap) (l : Int × Option Int) :
    link? (record (linkFields tags l)) = some ⟨codeOf tags l.1, optionalCodeOf tags l.2⟩ := by
  rw [link?, record?_record]
  rfl

theorem namedValue?_record (tags : TagMap) (x : Int × Value) :
    namedValue? (record (variableFields tags x)) = some ⟨codeOf tags x.1, plainValue x.2⟩ := by
  rw [namedValue?, record?_record]
  rfl

theorem selection?_record (tags : TagMap) (x : Int × Int) :
    selection? (record (choiceFields tags x)) = some ⟨codeOf tags x.1, toString x.2⟩ := by
  rw [selection?, record?_record]
  rfl

/-- **The document gives back its parts.** -/
theorem parts?_record (stepTags propertyTags : TagMap) (s : Snapshot) (es : List (Int × Option Int)) :
    parts? (record (linkedFields stepTags propertyTags s es)) =
      some (linkedParts stepTags propertyTags s es) := by
  have hvalues : optional? (linkedFields stepTags propertyTags s es) "variables" [] (list? namedValue?) = _ :=
    mapM_map (namedValue?_record propertyTags) s.values.entries
  have hlinks : optional? (linkedFields stepTags propertyTags s es) "history" [] (list? link?) = _ :=
    mapM_map (link?_record stepTags) es
  have hchoices : optional? (linkedFields stepTags propertyTags s es) "choises" [] (list? selection?) = _ :=
    mapM_map (selection?_record stepTags) s.choices.entries
  unfold parts?
  rw [record?_record]
  simp only [Option.bind_eq_bind, Option.bind_some, hvalues, hlinks, hchoices]
  rfl

/-! ## Reading the parts -/

/-- Entries with other numbers, without those that have none. -/
def renumberEntries (g : Int → Option Int) (es : List (Int × Value)) : List (Int × Value) :=
  es.filterMap fun x => (g x.1).map (·, x.2)

theorem renumberEntries_cons (g : Int → Option Int) (x : Int × Value) (es : List (Int × Value)) :
    renumberEntries g (x :: es) = match g x.1 with
      | none => renumberEntries g es
      | some id => (id, x.2) :: renumberEntries g es := by
  rw [renumberEntries, List.filterMap_cons]
  cases g x.1 <;> rfl

theorem keys_renumberEntries (g : Int → Option Int) (es : List (Int × Value)) :
    (renumberEntries g es).map Prod.fst = (es.map Prod.fst).filterMap g := by
  induction es with
  | nil => rfl
  | cons x rest ih =>
    rw [renumberEntries_cons, List.map_cons, List.filterMap_cons]
    cases g x.1 with
    | none => exact ih
    | some id => exact congrArg (id :: ·) ih

/-- Values are read under the numbers `g` that their properties are read as; one that is read as none is
passed over. -/
theorem readVariables_eq {tags tags' : TagMap} {g : Int → Option Int} {es : List (Int × Value)}
    (h : ∀ x ∈ es, propertyId tags' (codeOf tags x.1) = .ok (g x.1)) {values : OrderedMap Int Value}
    (nodup : ((values.entries ++ renumberEntries g es).map Prod.fst).Nodup) :
    readVariables tags' values (es.map fun x => ⟨codeOf tags x.1, x.2⟩) =
      .ok (values.insertAll (renumberEntries g es)) := by
  induction es generalizing values with
  | nil => rfl
  | cons x rest ih =>
    have ih := @ih fun y hy => h y (List.mem_cons_of_mem _ hy)
    rw [renumberEntries_cons] at nodup ⊢
    rw [List.map_cons, readVariables, h x List.mem_cons_self]
    cases hg : g x.1 with
    | none =>
      rw [hg] at nodup
      exact ih nodup
    | some id =>
      rw [hg] at nodup
      obtain ⟨hnew, -, hnodup⟩ := OrderedMap.insert_new nodup x.2
      simp only [bind, Except.bind, hnew, Bool.false_eq_true, if_false]
      exact ih hnodup

/-- Links are read with the numbers `f` that their steps are read as. -/
theorem readLinks_eq {tags tags' : TagMap} {f : Int → Int} {es : List (Int × Option Int)}
    (h : ∀ l ∈ es, ReadsAs tags tags' l.1 (f l.1) ∧ ∀ p, l.2 = some p → ReadsAs tags tags' p (f p))
    {links : Links} (nodup : ((links.entries ++ es.map fun l => (f l.1, l.2.map f)).map Prod.fst).Nodup) :
    readLinks tags' links (es.map fun l => ⟨codeOf tags l.1, optionalCodeOf tags l.2⟩) =
      .ok (links.insertAll (es.map fun l => (f l.1, l.2.map f))) := by
  induction es generalizing links with
  | nil => rfl
  | cons l rest ih =>
    obtain ⟨hstep, hprevious⟩ := h l List.mem_cons_self
    rw [List.map_cons] at nodup
    obtain ⟨hnew, -, hnodup⟩ := OrderedMap.insert_new nodup (l.2.map f)
    rw [List.map_cons, readLinks, hstep.stepId, optionalStepId_eq hprevious]
    simp only [bind, Except.bind, hnew, Bool.false_eq_true, if_false]
    exact ih (fun y hy => h y (List.mem_cons_of_mem _ hy)) hnodup

/-- Choices are read with the numbers `f` that their steps are read as. -/
theorem readChoices_eq {tags tags' : TagMap} {f : Int → Int} {es : List (Int × Int)}
    (h : ∀ x ∈ es, ReadsAs tags tags' x.1 (f x.1) ∧ 0 < x.2 ∧ Value.isShort x.2 = true)
    {choices : OrderedMap Int Int} :
    readChoices tags' choices (es.map fun x => ⟨codeOf tags x.1, toString x.2⟩) =
      .ok (choices.insertAll (es.map fun x => (f x.1, x.2))) := by
  induction es generalizing choices with
  | nil => rfl
  | cons x rest ih =>
    obtain ⟨hstep, hpos, hshort⟩ := h x List.mem_cons_self
    rw [List.map_cons, readChoices, hstep.stepId]
    simp only [bind, Except.bind, Number.strip_toString, positive?_toString hpos hshort]
    exact ih fun y hy => h y (List.mem_cons_of_mem _ hy)

/-- What holds of the steps of a path holds of the numbers on its links. -/
theorem forall_linksOf {p : Int → Prop} {path : List Int} (h : ∀ step ∈ path, p step) :
    ∀ l ∈ linksOf none path, p l.1 ∧ ∀ previous, l.2 = some previous → p previous := by
  intro l hl
  cases path with
  | nil => cases hl
  | cons root rest =>
    rcases List.mem_cons.1 hl with rfl | hl
    · exact ⟨h _ List.mem_cons_self, fun _ hnone => nomatch hnone⟩
    · obtain ⟨hmem, q, hq, hqmem⟩ := mem_linksOf hl
      refine ⟨h _ (List.mem_cons_of_mem _ hmem), fun previous hp => ?_⟩
      obtain rfl : q = previous := Option.some.inj (hq.symm.trans hp)
      exact h q hqmem

/-- A snapshot with other numbers of its steps and properties, without the values of the properties that
have none. -/
def renumber (f : Int → Int) (g : Int → Option Int) (s : Snapshot) : Snapshot where
  current := s.current.map f
  values := .ofList (renumberEntries g s.values.entries)
  history := s.history.map f
  choices := .ofList (s.choices.entries.map fun x => (f x.1, x.2))

/-- A snapshot as it stands in a text: with its days and moments as texts. -/
def plain (s : Snapshot) : Snapshot := { s with values := s.values.mapValues plainValue }

theorem keys_plain (s : Snapshot) : (plain s).values.keys = s.values.keys := List.map_map

/-- **What the codes of a snapshot are read as**, with tags that may be others: numbers `f` for its steps and
`g` for its properties, no two of which collide. -/
structure Renumbers (stepTags propertyTags stepTags' propertyTags' : TagMap) (f : Int → Int)
    (g : Int → Option Int) (s : Snapshot) : Prop where
  current : ∀ step, s.current = some step → ReadsAs stepTags stepTags' step (f step)
  history : ∀ step ∈ s.history, ReadsAs stepTags stepTags' step (f step)
  nodup : (s.history.map f).Nodup
  values : ∀ id ∈ s.values.keys, propertyId propertyTags' (codeOf propertyTags id) = .ok (g id)
  distinct : (s.values.keys.filterMap g).Nodup
  choices : ∀ x ∈ s.choices.entries,
    ReadsAs stepTags stepTags' x.1 (f x.1) ∧ 0 < x.2 ∧ Value.isShort x.2 = true

/-- **The parts of a document give back the snapshot**, with the numbers that its codes are read as, and in
whatever order the links of its history are. -/
theorem snapshot_linkedParts {stepTags' propertyTags' : TagMap} {f : Int → Int} {g : Int → Option Int}
    (h : Renumbers stepTags propertyTags stepTags' propertyTags' f g s) {es : List (Int × Option Int)}
    (hes : es.Perm (linksOf none s.history)) :
    (linkedParts stepTags propertyTags s es).snapshot stepTags' propertyTags' =
      .ok (renumber f g (plain s)) := by
  have hcurrent := optionalStepId_eq h.current .step
  have hparts : (s.values.entries.map fun x => (⟨codeOf propertyTags x.1, plainValue x.2⟩ : Variable)) =
      (plain s).values.entries.map fun x => ⟨codeOf propertyTags x.1, x.2⟩ := by
    unfold plain OrderedMap.mapValues
    rw [List.map_map]
    rfl
  have hvalues : readVariables propertyTags' .empty ((plain s).values.entries.map fun x =>
      ⟨codeOf propertyTags x.1, x.2⟩) = .ok (.ofList (renumberEntries g (plain s).values.entries)) := by
    refine readVariables_eq (fun x hx => h.values x.1 (keys_plain s ▸ List.mem_map_of_mem hx)) ?_
    have hentries := keys_renumberEntries g (plain s).values.entries
    exact (hentries.trans (congrArg (List.filterMap g) (keys_plain s))).symm ▸ h.distinct
  have hmap : (es.map fun l => (f l.1, l.2.map f)).Perm (linksOf none (s.history.map f)) := by
    have hlinks : linksOf none (s.history.map f) = _ := linksOf_map f none s.history
    rw [hlinks]
    exact hes.map _
  have hkeys : ((es.map fun l => (f l.1, l.2.map f)).map Prod.fst).Nodup := by
    rw [(hmap.map Prod.fst).nodup_iff, keys_linksOf]
    exact h.nodup
  have hlinks : readLinks stepTags' .empty (es.map fun l =>
      ⟨codeOf stepTags l.1, optionalCodeOf stepTags l.2⟩) =
        .ok (.ofList (es.map fun l => (f l.1, l.2.map f))) :=
    readLinks_eq (fun l hl => forall_linksOf h.history l (hes.mem_iff.1 hl)) hkeys
  have hchoices : readChoices stepTags' .empty (s.choices.entries.map _) = _ := readChoices_eq h.choices
  have hentries : (OrderedMap.ofList (es.map fun l => (f l.1, l.2.map f))).entries =
      es.map fun l => (f l.1, l.2.map f) := OrderedMap.entries_insertAll hkeys
  have horder := (ordered_of_perm h.nodup (List.Perm.trans (.of_eq hentries) hmap)).orderedHistory_eq
  unfold Parts.snapshot
  simp only [linkedParts, partsOf, hcurrent, hparts, hvalues, hlinks, hchoices, horder, bind, Except.bind]
  rfl

theorem snapshot_partsOf {stepTags' propertyTags' : TagMap} {f : Int → Int} {g : Int → Option Int}
    (h : Renumbers stepTags propertyTags stepTags' propertyTags' f g s) :
    (partsOf stepTags propertyTags s).snapshot stepTags' propertyTags' = .ok (renumber f g (plain s)) :=
  snapshot_linkedParts h (.refl _)

/-- A document is written, and its text is read as its parts, with any tags. -/
theorem Storable.read_linkedFields (h : Storable stepTags propertyTags s) (es : List (Int × Option Int)) :
    ∃ text, Json.write 0 (record (linkedFields stepTags propertyTags s es)) = .ok text ∧
      ∀ stepTags' propertyTags', read stepTags' propertyTags' text =
        (linkedParts stepTags propertyTags s es).snapshot stepTags' propertyTags' := by
  obtain ⟨text, hwrite, hread⟩ := (h.readable_document es).read?_write
  refine ⟨text, hwrite, fun stepTags' propertyTags' => ?_⟩
  unfold read
  rw [hread, Option.bind_some, parts?_record]

/-- **A snapshot that a document can hold is written**, and what is read from its text, with any tags, is what the
parts of its document are read as. -/
theorem Storable.read_written (bs : stepTags.Built) (bp : propertyTags.Built)
    (h : Storable stepTags propertyTags s) :
    ∃ text, write stepTags propertyTags s = .ok text ∧ ∀ stepTags' propertyTags',
      read stepTags' propertyTags' text =
        (partsOf stepTags propertyTags s).snapshot stepTags' propertyTags' := by
  obtain ⟨text, hwrite, hread⟩ := h.read_linkedFields (linksOf none s.history)
  refine ⟨text, ?_, hread⟩
  unfold write
  rw [h.document_eq bs bp]
  exact congrArg (Except.mapError Error.failure) hwrite

theorem read_written (bs : stepTags.Built) (bp : propertyTags.Built) (h : Saveable stepTags propertyTags s) :
    ∃ text, write stepTags propertyTags s = .ok text ∧ ∀ stepTags' propertyTags',
      read stepTags' propertyTags' text =
        (partsOf stepTags propertyTags s).snapshot stepTags' propertyTags' :=
  h.storable.read_written bs bp

/-- With the same tags every number is read as itself. -/
theorem Storable.renumbers (bs : stepTags.Built) (bp : propertyTags.Built)
    (h : Storable stepTags propertyTags s) :
    Renumbers stepTags propertyTags stepTags propertyTags id some s where
  current step hc := (h.current step hc).readsAs bs
  history step hs := (h.history step hs).readsAs bs
  nodup := by
    rw [List.map_id]
    exact h.nodup
  values := List.forall_mem_map.2 fun x hx => ((h.values x hx).1.codes bp).propertyId
  distinct := by
    rw [List.filterMap_some]
    exact s.values.nodup
  choices x hx := ⟨(h.choices x hx).1.readsAs bs, (h.choices x hx).2⟩

theorem renumber_self (s : Snapshot) : renumber id some s = s := by
  have hsome : renumberEntries some s.values.entries = s.values.entries := List.filterMap_some
  have hid : (s.choices.entries.map fun x => (id x.1, x.2)) = s.choices.entries := List.map_id _
  have hvalues : OrderedMap.ofList s.values.entries = s.values := OrderedMap.insertAll_entries s.values
  have hchoices : OrderedMap.ofList s.choices.entries = s.choices := OrderedMap.insertAll_entries s.choices
  rw [renumber, hsome, hvalues, hid, hchoices, List.map_id, Option.map_id]
  rfl

/-- **The round trip.** A snapshot that a document can hold is written, and read back from its text with the same
tags; its days and moments come back as texts. -/
theorem Storable.read_write (bs : stepTags.Built) (bp : propertyTags.Built) (h : Storable stepTags propertyTags s) :
    ∃ text, write stepTags propertyTags s = .ok text ∧ read stepTags propertyTags text = .ok (plain s) := by
  obtain ⟨text, hwrite, hread⟩ := h.read_written bs bp
  refine ⟨text, hwrite, (hread stepTags propertyTags).trans ?_⟩
  rw [snapshot_partsOf (h.renumbers bs bp), renumber_self]

theorem read_write (bs : stepTags.Built) (bp : propertyTags.Built) (h : Saveable stepTags propertyTags s) :
    ∃ text, write stepTags propertyTags s = .ok text ∧ read stepTags propertyTags text = .ok (plain s) :=
  h.storable.read_write bs bp

end Saved
end Walkthrough
