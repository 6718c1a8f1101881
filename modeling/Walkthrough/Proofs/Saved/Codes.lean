/-
# Codes of steps and properties

A number is written as its tag, or in digits if nothing has a tag. Either is read back as the number: tags
that were given one after the other (`TagMap.Built`) are not blank, and no two of them match.
-/

import Walkthrough.Proofs.Number.Decimal
import Walkthrough.Proofs.Saved.Tagging
import Walkthrough.Saved.Text

namespace Walkthrough

/-! ## Tags -/

namespace TagMap

variable {m m' : TagMap} {id : Int} {tag : String}

/-- The maps that are made by tagging. -/
inductive Built : TagMap → Prop where
  | empty : Built .empty
  | add {m m' : TagMap} {id : Value} {tag : String} (b : Built m) (h : m.add id tag = .ok m') : Built m'

theorem built_of_foldlM {items : List (Value × String)} (b : m.Built)
    (h : items.foldlM (fun m e => m.add e.1 e.2) m = .ok m') : m'.Built := by
  induction items generalizing m with
  | nil =>
    cases h
    exact b
  | cons e items ih =>
    rw [List.foldlM_cons] at h
    cases hadd : m.add e.1 e.2 with
    | error err => rw [hadd] at h; cases h
    | ok m'' =>
      rw [hadd] at h
      exact ih (b.add hadd) h

theorem built_of_ofList? {items : List (Value × String)} (h : ofList? items = .ok m) : m.Built :=
  built_of_foldlM .empty h

/-- A map with one more tag has the tables with one more tag. -/
theorem tables_of_add {value : Value} (h : m.add value tag = .ok m') :
    TagTables.add value tag m.toTagTables = .ok () m'.toTagTables := by
  unfold add at h
  split at h
  next heq =>
    cases h
    exact heq
  · cases h
  next heq => exact absurd heq m.agree.add_ne_missingKey

/-- What tagging does: a tag that is not blank is put under the number, without blanks around it. -/
theorem add_ok {value : Value} (h : m.add value tag = .ok m') :
    ∃ n, (∀ i, value = .int i → n = i) ∧ m'.tags = m.tags.insert n (Text.strip tag) ∧
      Text.isBlank tag = false := by
  have h := tables_of_add h
  obtain ⟨cause, heq⟩ | ⟨n, hn, hblank, -, heq⟩ := m.agree.add_cases value tag
  · rw [heq] at h
    cases h
  · have hvalue : ∀ i, value = .int i → n = i := by
      rintro i rfl
      rw [TagTables.number?] at hn
      split at hn
      · exact (Option.some.inj hn).symm
      · cases hn
    rw [heq] at h
    injection h with _ htables
    exact ⟨n, hvalue, by rw [← htables]; rfl, hblank⟩

theorem tag?_of_isEmpty (h : m.isEmpty = true) : m.tag? id = none := by
  have hentries : m.tags.entries = [] := List.isEmpty_iff.1 h
  rw [TagTables.tag?, OrderedMap.get?, hentries]
  rfl

theorem Built.kept (b : m.Built) : m.Kept := by
  induction b with
  | empty => exact TagTables.kept_empty
  | @add m m' value raw b hadd ih =>
    have hkept := ih.attempt value raw
    rwa [tables_of_add hadd] at hkept

/-- **No tag is blank.** -/
theorem Built.isBlank_eq_false (b : m.Built) (h : m.tag? id = some tag) : Text.isBlank tag = false :=
  b.kept.filled id tag h

/-- **The number of a tag** is that of the only tag that matches. -/
theorem id?_eq_some_iff : m.id? tag = some id ↔ ∃ t, m.tag? id = some t ∧ nameKey t = nameKey tag :=
  m.agree.id?_eq_some_iff

/-- Blanks around a tag do not count. -/
@[simp] theorem id?_strip (m : TagMap) (tag : String) : m.id? (Text.strip tag) = m.id? tag := by
  rw [TagTables.id?, nameKey_strip]
  rfl

/-- **A tag leads back to its number.** -/
theorem id?_tag (h : m.tag? id = some tag) : m.id? tag = some id := id?_eq_some_iff.2 ⟨tag, h, rfl⟩

end TagMap

namespace Saved

variable {tags : TagMap} {id : Int} {code : String}

/-- The map of a list of tags, if there is one. -/
def tagsOf (items : List (Value × String)) : TagMap := (TagMap.ofList? items).toOption.getD .empty

theorem tagsOf_built (items : List (Value × String)) : (tagsOf items).Built := by
  rw [tagsOf]
  cases h : TagMap.ofList? items with
  | ok tags => exact TagMap.built_of_ofList? h
  | error err => exact .empty

/-! ## Codes -/

/-- **A number with a code**: it has a tag, or nothing has a tag and its digits can be written and read. -/
def HasCode (tags : TagMap) (id : Int) : Prop :=
  if tags.isEmpty then 0 < id ∧ Value.isShort id = true else ∃ tag, tags.tag? id = some tag

/-- **A code of a number** is what is written for it, and is read back as it, for a step and for a
property. -/
structure Codes (tags : TagMap) (id : Int) (code : String) : Prop where
  stepCode : ∀ field, stepCode tags field (some id) = .ok code
  propertyCode : propertyCode tags id = .ok code
  filled : Text.isBlank code = false
  stepId : ∀ field, stepId tags field code = .ok id
  propertyId : propertyId tags code = .ok (some id)

/-- What is written for a number: its tag, or its digits if it has none. -/
def codeOf (tags : TagMap) (id : Int) : String := (tags.tag? id).getD (toString id)

theorem positive?_toString (pos : 0 < id) (short : Value.isShort id = true) :
    positive? (toString id) = some id := by
  rw [positive?, Number.readInt?_toString (of_decide_eq_true short), Option.filter, if_pos (decide_eq_true pos)]

/-- Where nothing has a tag, a short number is written in digits. -/
theorem code_of_isEmpty (empty : tags.isEmpty = true) (short : Value.isShort id = true) (untagged : CodeFault) :
    Saved.code tags untagged id = .ok (toString id) := by
  rw [Saved.code, if_pos empty, if_pos short]

/-- Where anything has a tag, a number is written as its tag. -/
theorem code_of_tag (empty : tags.isEmpty = false) {tag : String} (h : tags.tag? id = some tag)
    (untagged : CodeFault) : Saved.code tags untagged id = .ok tag := by
  rw [Saved.code, if_neg (by rw [empty]; exact Bool.false_ne_true), h]

/-- The digits of a number are its code if nothing has a tag. -/
theorem codes_toString (empty : tags.isEmpty = true) (pos : 0 < id) (short : Value.isShort id = true) :
    Codes tags id (toString id) := by
  have hstrip : Text.strip (toString id) = toString id := Number.strip_toString id
  have hne : (toString id).isEmpty = false := by
    rw [← hstrip, Text.isEmpty_strip, Number.isBlank_toString]
  refine ⟨fun field => code_of_isEmpty empty short _, code_of_isEmpty empty short _, Number.isBlank_toString id,
    fun field => ?_, ?_⟩
  · unfold stepId
    simp only [hstrip, hne, empty, positive?_toString pos short, Bool.not_true, Bool.false_eq_true, if_false]
  · unfold propertyId
    simp only [hstrip, hne, empty, positive?_toString pos short, Bool.not_true, Bool.false_eq_true, if_false]

/-- The tag of a number is its code. -/
theorem codes_tag (b : tags.Built) (empty : tags.isEmpty = false) {tag : String}
    (h : tags.tag? id = some tag) : Codes tags id tag := by
  have hfilled := b.isBlank_eq_false h
  have hne : (Text.strip tag).isEmpty = false := by rw [Text.isEmpty_strip, hfilled]
  refine ⟨fun field => code_of_tag empty h _, code_of_tag empty h _, hfilled, fun field => ?_, ?_⟩
  · unfold stepId
    simp only [hne, empty, TagMap.id?_strip, TagMap.id?_tag h, Bool.not_false, Bool.false_eq_true, if_false,
      if_true]
  · unfold propertyId
    simp only [hne, empty, TagMap.id?_strip, TagMap.id?_tag h, Bool.not_false, Bool.false_eq_true, if_false,
      if_true]

theorem HasCode.codes (b : tags.Built) (h : HasCode tags id) : Codes tags id (codeOf tags id) := by
  unfold HasCode at h
  unfold codeOf
  split at h
  · next empty =>
    rw [TagMap.tag?_of_isEmpty empty]
    exact codes_toString empty h.1 h.2
  · next empty =>
    obtain ⟨tag, htag⟩ := h
    rw [htag]
    exact codes_tag b (by simpa using empty) htag

/-- The code of a step that may be missing. -/
def optionalCodeOf (tags : TagMap) (step : Option Int) : String := (step.map (codeOf tags)).getD ""

theorem stepCode_optional {step : Option Int} (h : ∀ id, step = some id → Codes tags id (codeOf tags id))
    (field : SavedField) : stepCode tags field step = .ok (optionalCodeOf tags step) := by
  cases step with
  | none => rfl
  | some id => exact (h id rfl).stepCode field

/-- **A step that is read as another**: the code that it has with some tags is that of the other one with
other tags. -/
structure ReadsAs (tags tags' : TagMap) (id id' : Int) : Prop where
  filled : Text.isBlank (codeOf tags id) = false
  stepId : ∀ field, stepId tags' field (codeOf tags id) = .ok id'

theorem HasCode.readsAs (b : tags.Built) (h : HasCode tags id) : ReadsAs tags tags id id :=
  ⟨(h.codes b).filled, (h.codes b).stepId⟩

theorem optionalStepId_eq {tags' : TagMap} {f : Int → Int} {step : Option Int}
    (h : ∀ id, step = some id → ReadsAs tags tags' id (f id)) (field : SavedField) :
    optionalStepId tags' field (optionalCodeOf tags step) = .ok (step.map f) := by
  cases step with
  | none => rfl
  | some id =>
    have hread := h id rfl
    change optionalStepId tags' field (codeOf tags id) = .ok (some (f id))
    rw [optionalStepId, hread.filled, hread.stepId]
    rfl

end Saved
end Walkthrough
