/-
# Reading a document normalises it once

A document may be spelt in many ways, but what is read from it is always something that a document can hold
(`Parts.Reads.storable`):

| read | because |
| --- | --- |
| the number of a step or a property | it was found by its tag, or it is positive and has few enough digits |
| the number of a choice | it is positive and has few enough digits |
| a value | it stood in a document, which leaves it as many levels as the one that is written |
| a history | its links could be put in a row |

Among the values there are no days and moments, so that none comes back as a text. Hence what is read can be written,
and is read again from what is written (`read_normalises`): the second document is spelt in the way of the writer, and
from there on nothing changes.
-/

import Walkthrough.Proofs.Json.Shape
import Walkthrough.Proofs.Saved.Reading

namespace Walkthrough
namespace Saved

variable {tags stepTags propertyTags : TagMap} {s : Snapshot} {d : Parts} {text : String} {id : Int}

/-! ## Numbers that are read have codes -/

theorem positive?_ok (h : positive? text = some id) : 0 < id ∧ Value.isShort id = true := by
  obtain ⟨hread, hpos⟩ := Option.filter_eq_some_iff.1 h
  exact ⟨of_decide_eq_true hpos, decide_eq_true (Number.readInt?_lt hread)⟩

/-- Digits that are read as a number are a code if nothing has a tag. -/
theorem hasCode_of_positive? (empty : tags.isEmpty = true) (h : positive? text = some id) : HasCode tags id := by
  rw [HasCode, if_pos empty]
  exact positive?_ok h

/-- A tag by which a number was found belongs to it. -/
theorem hasCode_of_id? (empty : tags.isEmpty = false) (h : tags.id? text = some id) : HasCode tags id := by
  obtain ⟨tag, htag, -⟩ := TagMap.id?_eq_some_iff.1 h
  rw [HasCode, if_neg (Bool.eq_false_iff.1 empty)]
  exact ⟨tag, htag⟩

theorem hasCode_of_stepId {field : SavedField} {code : String} (h : stepId tags field code = .ok id) :
    HasCode tags id := by
  unfold stepId at h
  dsimp only at h
  split at h
  · cases h
  split at h
  · next tagged =>
    split at h
    · next hid =>
      cases h
      exact hasCode_of_id? (by simpa using tagged) hid
    · cases h
  · next untagged =>
    split at h
    · next hpos =>
      cases h
      exact hasCode_of_positive? (by simpa using untagged) hpos
    · cases h

theorem hasCode_of_optionalStepId {field : SavedField} {code : String}
    (h : optionalStepId tags field code = .ok (some id)) : HasCode tags id := by
  unfold optionalStepId at h
  split at h
  · cases h
  · cases hstep : stepId tags field code with
    | error err => rw [hstep] at h; cases h
    | ok step =>
      rw [hstep] at h
      cases h
      exact hasCode_of_stepId hstep

theorem hasCode_of_propertyId {code : String} (h : propertyId tags code = .ok (some id)) : HasCode tags id := by
  unfold propertyId at h
  dsimp only at h
  split at h
  · cases h
  split at h
  · next tagged => exact hasCode_of_id? (by simpa using tagged) (Except.ok.inj h)
  · next untagged =>
    split at h
    · next hpos =>
      cases h
      exact hasCode_of_positive? (by simpa using untagged) hpos
    · cases h

/-! ## Values that stand in a document -/

open Document (Fields record? field? required? optional? list?)
open Json (Shaped)

/-- The fields of a value are one level below it. -/
theorem shaped_of_record? {depth : Nat} {v : Value} {fields : Fields} (hv : Shaped (depth + 1) v)
    (h : record? v = some fields) : ∀ f ∈ fields, Shaped depth f.2 := by
  cases hv with
  | @object _ members names hmembers =>
    obtain rfl : members = fields := Option.some.inj ((record?_record members).symm.trans h)
    exact hmembers
  | _ => cases h

theorem shaped_of_field? {depth : Nat} {v : Value} {fields : Fields} {name : String}
    (hfields : ∀ f ∈ fields, Shaped depth f.2) (h : field? fields name = some v) : Shaped depth v := by
  obtain ⟨f, hf, rfl⟩ := Option.map_eq_some_iff.1 h
  exact hfields f (List.mem_of_find?_eq_some hf)

/-- What a list of values is read as, item by item. -/
theorem forall₂_of_mapM {α β : Type} {item? : α → Option β} {items : List α} {out : List β}
    (h : items.mapM item? = some out) : List.Forall₂ (fun a b => item? a = some b) items out := by
  induction items generalizing out with
  | nil =>
    cases h
    exact .nil
  | cons a rest ih =>
    rw [List.mapM_cons] at h
    obtain ⟨b, hb, h⟩ := Option.bind_eq_some_iff.1 h
    obtain ⟨bs, hbs, h⟩ := Option.bind_eq_some_iff.1 h
    cases h
    exact .cons hb (ih hbs)

/-- Each item that is read from a list was one level below it. -/
theorem shaped_of_list? {α : Type} {depth : Nat} {v : Value} {item? : Value → Option α} {out : List α} {a : α}
    (hv : Shaped (depth + 1) v) (h : list? item? v = some out) (ha : a ∈ out) :
    ∃ w, Shaped depth w ∧ item? w = some a := by
  cases hv with
  | @list _ items hitems =>
    obtain ⟨w, hw, hitem⟩ := exists_left (forall₂_of_mapM h) ha
    exact ⟨w, hitems w hw, hitem⟩
  | _ => cases h

theorem shaped_of_namedValue? {depth : Nat} {v : Value} {x : Variable} (hv : Shaped (depth + 1) v)
    (h : namedValue? v = some x) : Shaped depth x.value := by
  obtain ⟨fields, hfields, h⟩ := Option.bind_eq_some_iff.1 h
  obtain ⟨name, -, h⟩ := Option.bind_eq_some_iff.1 h
  obtain ⟨value, hvalue, h⟩ := Option.bind_eq_some_iff.1 h
  cases h
  obtain ⟨w, hw, heq⟩ := Option.bind_eq_some_iff.1 hvalue
  cases heq
  exact shaped_of_field? (shaped_of_record? hv hfields) hw

/-- **The values of a document** stand in a record, in a list, in the document. -/
theorem shaped_of_parts? {v : Value} (hv : Shaped Json.maxDepth v) (h : parts? v = some d) {x : Variable}
    (hx : x ∈ d.values) : Shaped valueDepth x.value := by
  obtain ⟨fields, hfields, h⟩ := Option.bind_eq_some_iff.1 h
  obtain ⟨step, -, h⟩ := Option.bind_eq_some_iff.1 h
  obtain ⟨values, hvalues, h⟩ := Option.bind_eq_some_iff.1 h
  obtain ⟨history, -, h⟩ := Option.bind_eq_some_iff.1 h
  obtain ⟨choices, -, h⟩ := Option.bind_eq_some_iff.1 h
  cases h
  unfold optional? at hvalues
  split at hvalues
  · cases hvalues
    cases hx
  · next w hw =>
    have hlist : Shaped 199 w := shaped_of_field? (shaped_of_record? hv hfields) hw
    obtain ⟨r, hr, hvalue⟩ := shaped_of_list? hlist hvalues hx
    exact shaped_of_namedValue? hr hvalue

/-- There are no days and moments among the values that are read. -/
theorem plainValue_of_shaped {depth : Nat} {v : Value} (h : Shaped depth v) : plainValue v = v := by
  cases h <;> rfl

/-- A snapshot whose values have such shapes stands in a text as it is. -/
theorem plain_of_shaped {depth : Nat} (h : ∀ x ∈ s.values.entries, Shaped depth x.2) : plain s = s := by
  have hentry : ∀ x ∈ s.values.entries, (x.1, plainValue x.2) = id x := fun x hx =>
    Prod.ext rfl (plainValue_of_shaped (h x hx))
  have hentries : (s.values.mapValues plainValue).entries = s.values.entries :=
    (List.map_congr_left hentry).trans (List.map_id _)
  exact congrArg (fun values => { s with values }) (OrderedMap.ext hentries)

/-! ## What is read can be written -/

/-- Each value that is read is that of a record. -/
theorem Parts.Kept.exists_value (h : d.Kept stepTags propertyTags s) {x : Int × Value} (hx : x ∈ s.values.entries) :
    HasCode propertyTags x.1 ∧ ∃ v ∈ d.values, v.value = x.2 := by
  rw [h.values] at hx
  obtain ⟨v, hv, hentry⟩ := List.mem_filterMap.1 hx
  unfold Variable.entry? at hentry
  split at hentry
  · next id hid =>
    cases hentry
    exact ⟨hasCode_of_propertyId hid, v, hv, rfl⟩
  · cases hentry

/-- **What is read is something that a document can hold.** -/
theorem Parts.Reads.storable {links : Links} (h : d.Reads stepTags propertyTags s links)
    (values : ∀ x ∈ s.values.entries, Shaped valueDepth x.2)
    (exact_floats : ∀ v ∈ s.values.values, ∀ x ∈ v.floats, Json.IsExact x) :
    Storable stepTags propertyTags s := by
  obtain ⟨es, hes, hhistory⟩ := h.kept.history
  refine ⟨fun step hstep => ?_, hhistory.nodup, fun step hstep => ?_, fun x hx => ?_, fun x hx => ?_⟩
  · exact hasCode_of_optionalStepId (hstep ▸ h.current)
  · obtain ⟨e, he, rfl⟩ := List.mem_map.1 (hhistory.steps.mem_iff.1 hstep)
    obtain ⟨l, -, hsays⟩ := exists_left hes he
    exact hasCode_of_stepId hsays.step
  · refine ⟨(h.kept.exists_value hx).1, ?_⟩
    rw [plainValue_of_shaped (values x hx)]
    exact (values x hx).readable (exact_floats x.2 (List.mem_map_of_mem hx))
  · obtain ⟨c, -, hsays⟩ := h.exists_choice hx
    exact ⟨hasCode_of_stepId hsays.step, positive?_ok hsays.choice⟩

/-- **Reading normalises once.** What is read from a text, with any tags, can be written with these tags, and is read
again from what is written, as long as the floats among its values have exact texts. -/
theorem read_normalises (bs : stepTags.Built) (bp : propertyTags.Built)
    (h : read stepTags propertyTags text = .ok s)
    (exact_floats : ∀ v ∈ s.values.values, ∀ x ∈ v.floats, Json.IsExact x) :
    ∃ text', write stepTags propertyTags s = .ok text' ∧ read stepTags propertyTags text' = .ok s := by
  obtain ⟨v, d, hv, hd, links, hreads⟩ := exists_parts h
  have hvalues : ∀ x ∈ s.values.entries, Shaped valueDepth x.2 := fun x hx => by
    obtain ⟨-, w, hw, hvalue⟩ := hreads.kept.exists_value hx
    exact hvalue ▸ shaped_of_parts? (Json.shaped_of_read? hv) hd hw
  have hwritten := (hreads.storable hvalues exact_floats).read_write bs bp
  rwa [plain_of_shaped hvalues] at hwritten

/-- The tags of the steps and of the only property of a walk. -/
def walkSteps : TagMap := tagsOf [(.int 1, "up"), (.int 2, "down"), (.int 3, "out")]
def walkNotes : TagMap := tagsOf [(.int 7, "note")]

/-- A text of the walk that was edited by hand: its tags are spelt in other ways, its history stands the other way
round and does not begin at the first step, and there is more in it than is read. -/
def walkText : String :=
  "\x7b\"step_id\":\" OUT\",\"by\":\"hand\",\"variables\":[\x7b\"name\":\"Note\",\"value\":[1.5]\x7d],\"history\":[" ++
    "\x7b\"step_id\":\"out\",\"prev_step_id\":\"Down\"\x7d,\x7b\"step_id\":\"down\",\"prev_step_id\":\"up\"\x7d]\x7d"

/-- The walk is written in the way of the writer, and then read as the same. -/
theorem walkText_normalised :
    ∃ s text, read walkSteps walkNotes walkText = .ok s ∧ s.current = some 3 ∧ s.history = [2, 3] ∧
      write walkSteps walkNotes s = .ok text ∧ read walkSteps walkNotes text = .ok s := by
  have hread : (read walkSteps walkNotes walkText).toOption.map (fun s =>
      (s.current, s.history, s.values.values.flatMap Value.floats)) =
        some (some 3, [2, 3], [Number.ofDecimal false 15 (-1)]) := by decide +kernel
  obtain ⟨s, hs, hparts⟩ := Option.map_eq_some_iff.1 hread
  obtain ⟨hcurrent, hhistory, hfloats⟩ : s.current = some 3 ∧ s.history = [2, 3] ∧
      s.values.values.flatMap Value.floats = [Number.ofDecimal false 15 (-1)] := by
    simpa only [Prod.mk.injEq] using hparts
  have hexact : Json.IsExact (Number.ofDecimal false 15 (-1)) := by
    have htext : Json.floatText (Number.ofDecimal false 15 (-1)) = "1.5" := by decide +kernel
    rw [Json.IsExact, htext]
    rfl
  have hok := ok_of_toOption hs
  have bs : walkSteps.Built := tagsOf_built _
  have bp : walkNotes.Built := tagsOf_built _
  obtain ⟨text, hwrite, hread⟩ := read_normalises bs bp hok fun v hv x hx => by
    have hmem : x ∈ s.values.values.flatMap Value.floats := List.mem_flatMap.2 ⟨v, hv, hx⟩
    rw [hfloats] at hmem
    exact List.mem_singleton.1 hmem ▸ hexact
  exact ⟨s, text, hok, hcurrent, hhistory, hwrite, hread⟩

end Saved
end Walkthrough
