/-
# Saved snapshots survive renumbering

A script may give its steps and properties other numbers while they keep their tags. A text that was saved
with the old tags is read with the new ones as the snapshot with every number replaced by the number that
has its tag now (`TagMap.renumber?`). No number has two tags and no two numbers have tags that match, in
either map, so no two numbers of the snapshot become one (`TagMap.renumber?_inj`).

| in the text | read with tags that do not know it |
| --- | --- |
| the tag of a step | refused |
| the tag of a property | passed over, with its value |
-/

import Mathlib.Data.List.Nodup
import Walkthrough.Proofs.Engine.SavedText

namespace Walkthrough

namespace TagMap

variable {tags tags' : TagMap} {i j n : Int}

/-- The number that has the tag of a number in another map. -/
def renumber? (tags tags' : TagMap) (id : Int) : Option Int := (tags.tag? id).bind tags'.id?

/-- **Renumbering is injective**: tags that match one tag match each other. -/
theorem renumber?_inj (hi : tags.renumber? tags' i = some n) (hj : tags.renumber? tags' j = some n) :
    i = j := by
  obtain ⟨a, ha, han⟩ := Option.bind_eq_some_iff.1 hi
  obtain ⟨b, hb, hbn⟩ := Option.bind_eq_some_iff.1 hj
  obtain ⟨t, ht, hta⟩ := id?_eq_some_iff.1 han
  obtain ⟨u, hu, hub⟩ := id?_eq_some_iff.1 hbn
  obtain rfl : t = u := Option.some.inj (ht.symm.trans hu)
  have hji : tags.id? a = some j := id?_eq_some_iff.2 ⟨b, hb, hub.symm.trans hta⟩
  exact Option.some.inj ((id?_tag ha).symm.trans hji)

theorem injOn_of_renumber? {f : Int → Int} {ids : List Int}
    (h : ∀ id ∈ ids, tags.renumber? tags' id = some (f id)) : ∀ i ∈ ids, ∀ j ∈ ids, f i = f j → i = j :=
  fun i hi j hj hij => renumber?_inj (h i hi) (hij ▸ h j hj)

end TagMap

namespace Saved

variable {tags tags' stepTags propertyTags stepTags' propertyTags' : TagMap} {s : Snapshot} {id n : Int}

theorem codeOf_tag {tag : String} (h : tags.tag? id = some tag) : codeOf tags id = tag := by
  rw [codeOf, h]
  rfl

theorem hasCode_of_tag {tag : String} (h : tags.tag? id = some tag) : HasCode tags id := by
  have filled : ¬tags.isEmpty = true := fun empty => by
    have hentries : tags.tags.entries = [] := List.isEmpty_iff.1 empty
    have hmem := OrderedMap.get?_eq_some_iff.1 h
    rw [hentries] at hmem
    cases hmem
  rw [HasCode, if_neg filled]
  exact ⟨tag, h⟩

/-- The tag of a step is read as the number that has it now. -/
theorem readsAs_of_renumber? (b : tags.Built) (filled : tags'.isEmpty = false)
    (h : tags.renumber? tags' id = some n) : ReadsAs tags tags' id n := by
  obtain ⟨tag, htag, hn⟩ := Option.bind_eq_some_iff.1 h
  have hcode := codeOf_tag htag
  have hfilled := b.isBlank_eq_false htag
  have hne : (Text.strip tag).isEmpty = false := by rw [Text.isEmpty_strip, hfilled]
  refine ⟨hcode ▸ hfilled, fun field => ?_⟩
  unfold stepId
  simp only [hcode, hne, filled, TagMap.id?_strip, hn, Bool.not_false, Bool.false_eq_true, if_false, if_true]

/-- The tag of a property is read as the number that has it now, if there is one. -/
theorem propertyId_of_tag (b : tags.Built) (filled : tags'.isEmpty = false) {tag : String}
    (h : tags.tag? id = some tag) : propertyId tags' (codeOf tags id) = .ok (tags.renumber? tags' id) := by
  have hne : (Text.strip tag).isEmpty = false := by rw [Text.isEmpty_strip, b.isBlank_eq_false h]
  have hn : tags.renumber? tags' id = tags'.id? tag := by rw [TagMap.renumber?, h, Option.bind_some]
  unfold propertyId
  simp only [codeOf_tag h, hne, filled, TagMap.id?_strip, hn, Bool.not_false, Bool.false_eq_true, if_false,
    if_true]

/-- A snapshot whose steps and properties have tags can be saved if a text holds its numbers exactly. -/
theorem saveable_of_tags (steps : ∀ id ∈ s.stepIds, (stepTags.tag? id).isSome = true)
    (properties : ∀ id ∈ s.propertyIds, (propertyTags.tag? id).isSome = true) (nodup : s.history.Nodup)
    (choices : ∀ choice ∈ s.choices.values, 0 < choice ∧ Value.isShort choice = true)
    (values : ∀ v ∈ s.values.values, v.IsExact ∧ ∃ type : PropertyType, type.Holds v) :
    Saveable stepTags propertyTags s := by
  have hcode : ∀ id ∈ s.stepIds, HasCode stepTags id := fun id hid => by
    obtain ⟨tag, htag⟩ := Option.isSome_iff_exists.1 (steps id hid)
    exact hasCode_of_tag htag
  refine ⟨fun step hc => hcode step ?_, nodup, fun step hs => hcode step ?_, fun x hx => ⟨?_, ?_⟩,
    fun x hx => ⟨hcode x.1 ?_, choices x.2 (List.mem_map_of_mem hx)⟩⟩
  · exact List.mem_append_left _ (List.mem_append_left _ (Option.mem_toList.2 hc))
  · exact List.mem_append_left _ (List.mem_append_right _ hs)
  · obtain ⟨tag, htag⟩ := Option.isSome_iff_exists.1 (properties x.1 (List.mem_map_of_mem hx))
    exact hasCode_of_tag htag
  · obtain ⟨hexact, type, htype⟩ := values x.2 (List.mem_map_of_mem hx)
    exact htype.readable hexact
  · exact List.mem_append_right _ (List.mem_map_of_mem hx)

/-- **Tags decide what is read**: with other tags, every step is read as the number that has its tag there,
and so is every property that has one there. -/
theorem renumbers_of_tags {f : Int → Int} (bs : stepTags.Built) (bp : propertyTags.Built)
    (filledSteps : stepTags'.isEmpty = false) (filledProperties : propertyTags'.isEmpty = false)
    (steps : ∀ id ∈ s.stepIds, stepTags.renumber? stepTags' id = some (f id))
    (properties : ∀ id ∈ s.propertyIds, (propertyTags.tag? id).isSome = true) (nodup : s.history.Nodup)
    (choices : ∀ choice ∈ s.choices.values, 0 < choice ∧ Value.isShort choice = true) :
    Renumbers stepTags propertyTags stepTags' propertyTags' f (propertyTags.renumber? propertyTags') s := by
  have hread : ∀ id ∈ s.stepIds, ReadsAs stepTags stepTags' id (f id) := fun id hid =>
    readsAs_of_renumber? bs filledSteps (steps id hid)
  have hhistory : ∀ step ∈ s.history, step ∈ s.stepIds := fun step hs =>
    List.mem_append_left _ (List.mem_append_right _ hs)
  refine ⟨fun step hc => hread step ?_, fun step hs => hread step (hhistory step hs), ?_, fun id hid => ?_, ?_,
    fun x hx => ⟨hread x.1 ?_, choices x.2 (List.mem_map_of_mem hx)⟩⟩
  · exact List.mem_append_left _ (List.mem_append_left _ (Option.mem_toList.2 hc))
  · exact nodup.map_on fun i hi j hj => TagMap.injOn_of_renumber? steps i (hhistory i hi) j (hhistory j hj)
  · obtain ⟨tag, htag⟩ := Option.isSome_iff_exists.1 (properties id hid)
    exact propertyId_of_tag bp filledProperties htag
  · exact List.Nodup.filterMap (fun i j n hi hj => TagMap.renumber?_inj hi hj) s.values.nodup
  · exact List.mem_append_right _ (List.mem_map_of_mem hx)

/-- **Renumbered snapshots.** A snapshot whose steps and properties have tags is written, and its text is
read with the tags of a script in which the tag of every step is known. The current step, the history and the
steps of the choices get the numbers that have their tags now, and so do the properties; the values of
properties whose tag is not known any more are left out, and days and moments come back as texts. Nothing
else changes, and no two numbers become one. The text has to hold the numbers of the choices and the values
exactly. -/
theorem read_write_renumbered (bs : stepTags.Built) (bp : propertyTags.Built)
    (filledSteps : stepTags'.isEmpty = false) (filledProperties : propertyTags'.isEmpty = false)
    (steps : ∀ id ∈ s.stepIds, (stepTags.tag? id).isSome = true)
    (known : ∀ id ∈ s.stepIds, ∀ tag, stepTags.tag? id = some tag → (stepTags'.id? tag).isSome = true)
    (properties : ∀ id ∈ s.propertyIds, (propertyTags.tag? id).isSome = true) (nodup : s.history.Nodup)
    (choices : ∀ choice ∈ s.choices.values, 0 < choice ∧ Value.isShort choice = true)
    (values : ∀ v ∈ s.values.values, v.IsExact ∧ ∃ type : PropertyType, type.Holds v) :
    ∃ text s', ∃ f : Int → Int,
      write stepTags propertyTags s = .ok text ∧ read stepTags' propertyTags' text = .ok s' ∧
      (∀ id ∈ s.stepIds, stepTags.renumber? stepTags' id = some (f id)) ∧
      s'.current = s.current.map f ∧ s'.history = s.history.map f ∧
      s'.choices.entries = s.choices.entries.map (fun x => (f x.1, x.2)) ∧
      s'.values.entries = s.values.entries.filterMap (fun x =>
        (propertyTags.renumber? propertyTags' x.1).map fun id => (id, plainValue x.2)) ∧
      (∀ i ∈ s.stepIds, ∀ j ∈ s.stepIds, f i = f j → i = j) ∧
      ∀ i j n, propertyTags.renumber? propertyTags' i = some n →
        propertyTags.renumber? propertyTags' j = some n → i = j := by
  have hsome : ∀ id ∈ s.stepIds, ∃ n, stepTags.renumber? stepTags' id = some n := fun id hid => by
    obtain ⟨tag, htag⟩ := Option.isSome_iff_exists.1 (steps id hid)
    obtain ⟨n, hn⟩ := Option.isSome_iff_exists.1 (known id hid tag htag)
    exact ⟨n, by rw [TagMap.renumber?, htag, Option.bind_some, hn]⟩
  obtain ⟨f, hf⟩ : ∃ f : Int → Int, ∀ id ∈ s.stepIds, stepTags.renumber? stepTags' id = some (f id) :=
    ⟨fun id => (stepTags.renumber? stepTags' id).getD id, fun id hid => by
      obtain ⟨n, hn⟩ := hsome id hid
      simp only [hn, Option.getD_some]⟩
  have hinj := TagMap.injOn_of_renumber? hf
  have hr := renumbers_of_tags bs bp filledSteps filledProperties hf properties nodup choices
  obtain ⟨text, hwrite, hread⟩ := read_written bs bp (saveable_of_tags steps properties nodup choices values)
  have hchoices : ((s.choices.entries.map fun x => (f x.1, x.2)).map Prod.fst).Nodup := by
    have hkeys : ∀ id ∈ s.choices.keys, id ∈ s.stepIds := fun id => List.mem_append_right _
    have hmap : (s.choices.entries.map fun x => (f x.1, x.2)).map Prod.fst = s.choices.keys.map f := by
      rw [OrderedMap.keys, List.map_map, List.map_map]
      rfl
    rw [hmap]
    exact s.choices.nodup.map_on fun i hi j hj => hinj i (hkeys i hi) j (hkeys j hj)
  have hvalues : ((renumberEntries (propertyTags.renumber? propertyTags')
      (plain s).values.entries).map Prod.fst).Nodup := by
    rw [keys_renumberEntries]
    exact (congrArg (List.filterMap _) (keys_plain s)).symm ▸ hr.distinct
  exact ⟨text, _, f, hwrite, (hread stepTags' propertyTags').trans (snapshot_partsOf hr), hf, rfl, rfl,
    OrderedMap.entries_insertAll hchoices, (OrderedMap.entries_insertAll hvalues).trans List.filterMap_map,
    hinj, fun i j n => TagMap.renumber?_inj⟩

/-! ## A form that gets other numbers -/

/-- The tags of a form when it was saved: of its pages, and of what it asks for. -/
def oldPages : TagMap := tagsOf [(.int 1, "start"), (.int 2, "pick")]
def oldQuestions : TagMap := tagsOf [(.int 10, "color"), (.int 11, "day")]

/-- Its tags later: the pages have changed places, the tags are spelt in another way, and the day is not
asked for any more. -/
def newPages : TagMap := tagsOf [(.int 7, " PICK "), (.int 9, "Start")]
def newQuestions : TagMap := tagsOf [(.int 20, "Color")]

/-- A form that was left at its second page, with a choice on it and two values. -/
def formLeft : Snapshot :=
  { current := some 2, values := .ofList [(10, .text "red"), (11, .date Engine.leapDay)], history := [1, 2],
    choices := .ofList [(2, 1)] }

theorem formLeft_renumbered :
    ∃ text s', write oldPages oldQuestions formLeft = .ok text ∧ read newPages newQuestions text = .ok s' ∧
      s'.current = some 7 ∧ s'.history = [9, 7] ∧ s'.choices.entries = [(7, 1)] ∧
      s'.values.entries = [(20, .text "red")] := by
  have known : ∀ id ∈ formLeft.stepIds, ∀ tag, oldPages.tag? id = some tag →
      (newPages.id? tag).isSome = true := fun id hid tag htag => by
    have hall : ∀ id ∈ formLeft.stepIds, ((oldPages.tag? id).bind newPages.id?).isSome = true := by
      decide +kernel
    simpa only [htag, Option.bind_some] using hall id hid
  have values : ∀ v ∈ formLeft.values.values, v.IsExact ∧ ∃ type : PropertyType, type.Holds v := by
    intro v hv
    have hvalues : formLeft.values.values = [.text "red", .date Engine.leapDay] := rfl
    rw [hvalues] at hv
    rcases List.mem_pair.1 hv with rfl | rfl
    · exact ⟨trivial, .string, .string _⟩
    · exact ⟨trivial, .date, .date _⟩
  obtain ⟨text, s', f, hwrite, hread, hf, hcurrent, hhistory, hchoices, hvalues, -, -⟩ :=
    read_write_renumbered (show oldPages.Built from tagsOf_built _)
      (show oldQuestions.Built from tagsOf_built _) (show newPages.isEmpty = false by decide +kernel)
      (show newQuestions.isEmpty = false by decide +kernel)
      (show ∀ id ∈ formLeft.stepIds, (oldPages.tag? id).isSome = true by decide +kernel) known
      (show ∀ id ∈ formLeft.propertyIds, (oldQuestions.tag? id).isSome = true by decide +kernel)
      (by decide +kernel) (by decide +kernel) values
  have h₁ : f 1 = 9 := Option.some.inj ((hf 1 (by decide +kernel)).symm.trans (by decide +kernel))
  have h₂ : f 2 = 7 := Option.some.inj ((hf 2 (by decide +kernel)).symm.trans (by decide +kernel))
  refine ⟨text, s', hwrite, hread, ?_, ?_, ?_, ?_⟩
  · rw [hcurrent, show formLeft.current = some 2 from rfl, Option.map_some, h₂]
  · rw [hhistory, show formLeft.history = [1, 2] from rfl, List.map_cons, List.map_cons, h₁, h₂, List.map_nil]
  · rw [hchoices, show formLeft.choices.entries = [(2, 1)] from rfl, List.map_cons, h₂, List.map_nil]
  · rw [hvalues]
    have hentries : formLeft.values.entries = [(10, .text "red"), (11, .date Engine.leapDay)] := rfl
    have hcolor : oldQuestions.renumber? newQuestions 10 = some 20 := by decide +kernel
    have hday : oldQuestions.renumber? newQuestions 11 = none := by decide +kernel
    simp only [hentries, List.filterMap_cons, hcolor, hday, Option.map_some, Option.map_none,
      List.filterMap_nil, plainValue]

end Saved
end Walkthrough
