/-
# What cannot be written

A snapshot is written number by number, in this order:

| part | its numbers |
| --- | --- |
| the current step | one step, or none |
| the history | steps |
| the values | properties |
| the choices | steps |

Where some numbers have tags and a number in a snapshot has none, that number is a fault (`faults`). Writing
breaks off at the first fault, as long as no number is too long to be written (`document_eq_orFault`). If there
is none, it gives a document, and the document has a text as long as no other integer is too long for one, either
(`writable_document`).
-/

import Walkthrough.Proofs.Saved.RoundTrip

namespace Walkthrough

/-! ## Values that have a text -/

namespace Json

/-- **Values that can be written**: no integer in them is too long, and there are no days and moments. -/
inductive Writable : Value → Prop where
  | unset : Writable .unset
  | bool (b : Bool) : Writable (.bool b)
  | int {n : Int} (short : Value.isShort n = true) : Writable (.int n)
  | float (x : Float) : Writable (.float x)
  | text (s : String) : Writable (.text s)
  | list {items : List Value} (h : ∀ v ∈ items, Writable v) : Writable (.list items)
  | dict {entries : List (Value × Value)} (h : ∀ e ∈ entries, Writable e.2) : Writable (.dict entries)

theorem exists_writeItems {level : Nat} {items : List Value} (h : ∀ v ∈ items, ∃ s, write level v = .ok s) :
    ∃ parts, writeItems level items = .ok parts := by
  induction items with
  | nil => exact ⟨[], rfl⟩
  | cons v items ih =>
    obtain ⟨s, hs⟩ := h v List.mem_cons_self
    obtain ⟨parts, hparts⟩ := ih fun w hw => h w (List.mem_cons_of_mem _ hw)
    exact ⟨s :: parts, by rw [writeItems, hs, hparts]; rfl⟩

theorem exists_writeEntries {level : Nat} {entries : List (Value × Value)}
    (h : ∀ e ∈ entries, ∃ s, write level e.2 = .ok s) : ∃ parts, writeEntries level entries = .ok parts := by
  induction entries with
  | nil => exact ⟨[], rfl⟩
  | cons e entries ih =>
    obtain ⟨s, hs⟩ := h e List.mem_cons_self
    obtain ⟨parts, hparts⟩ := ih fun f hf => h f (List.mem_cons_of_mem _ hf)
    exact ⟨_, by rw [writeEntries, hs, hparts]; rfl⟩

/-- **A value that can be written** has a text on every level. -/
theorem Writable.exists_write {v : Value} (h : Writable v) (level : Nat) : ∃ s, write level v = .ok s := by
  induction h generalizing level with
  | unset => exact ⟨_, rfl⟩
  | bool b => exact ⟨_, rfl⟩
  | int short => exact ⟨_, by rw [write, if_pos short]⟩
  | float x => exact ⟨_, rfl⟩
  | text s => exact ⟨_, rfl⟩
  | list h ih =>
    obtain ⟨parts, hparts⟩ := exists_writeItems fun v hv => ih v hv (level + 1)
    exact ⟨_, by rw [write, hparts]; rfl⟩
  | dict h ih =>
    obtain ⟨parts, hparts⟩ := exists_writeEntries fun e he => ih e he (level + 1)
    exact ⟨_, by rw [write, hparts]; rfl⟩

end Json

namespace Saved

variable {tags stepTags propertyTags : TagMap} {s : Snapshot}

/-! ## Faults -/

/-- A result, unless there are faults: then the first of them ends it. -/
def orFault {α : Type} (a : α) (faults : List CodeFault) : Except Error α :=
  match faults.head? with
  | none => .ok a
  | some fault => .error (.script (.code fault))

/-- The faults of two parts, one after the other. -/
theorem orFault_bind {α β : Type} {a : α} {b : β} {fs gs : List CodeFault} {f : α → Except Error β}
    (h : fs = [] → f a = orFault b gs) : (orFault a fs >>= f) = orFault b (fs ++ gs) := by
  cases fs with
  | nil => exact h rfl
  | cons fault rest => rfl

theorem orFault_bind_pure {α β : Type} (a : α) (faults : List CodeFault) (f : α → β) :
    (orFault a faults >>= fun a => .ok (f a)) = orFault (f a) faults := by
  cases faults <;> rfl

/-- The faults of numbers: those without a tag, if there are tags. -/
def untagged (tags : TagMap) (fault : Int → CodeFault) (ids : List Int) : List CodeFault :=
  if tags.isEmpty then [] else (ids.filter fun id => (tags.tag? id).isNone).map fault

/-- **The faults of a snapshot**, in the order in which it is written. -/
def faults (stepTags propertyTags : TagMap) (s : Snapshot) : List CodeFault :=
  untagged stepTags (.untaggedStep .step) s.current.toList ++
    (untagged stepTags (.untaggedStep .history) s.history ++
      (untagged propertyTags .untaggedProperty s.values.keys ++
        untagged stepTags (.untaggedStep .choices) s.choices.keys))

theorem untagged_nil (tags : TagMap) (fault : Int → CodeFault) : untagged tags fault [] = [] := by
  unfold untagged
  split <;> rfl

theorem untagged_cons (tags : TagMap) (fault : Int → CodeFault) (id : Int) (ids : List Int) :
    untagged tags fault (id :: ids) = untagged tags fault [id] ++ untagged tags fault ids := by
  unfold untagged
  split
  · rfl
  · rw [← List.map_append, ← List.filter_append, List.singleton_append]

theorem untagged_eq_nil_iff {fault : Int → CodeFault} {ids : List Int} :
    untagged tags fault ids = [] ↔ tags.isEmpty = true ∨ ∀ id ∈ ids, (tags.tag? id).isSome = true := by
  unfold untagged
  cases tags.isEmpty <;> simp [List.filter_eq_nil_iff, Option.isSome_iff_ne_none]

/-! ## Writing breaks off at the first fault -/

/-- The code of a short number is written, unless it lacks a tag; the message that says so can be written. -/
theorem code_eq_orFault (tags : TagMap) {fault : Int → CodeFault} {id : Int} (short : Value.isShort id = true)
    (writable : (ScriptError.code (fault id)).isWritable = true) :
    code tags (fault id) id = orFault (codeOf tags id) (untagged tags fault [id]) := by
  unfold codeOf untagged
  cases hempty : tags.isEmpty with
  | true =>
    rw [TagMap.tag?_of_isEmpty hempty, code_of_isEmpty hempty short]
    rfl
  | false =>
    cases htag : tags.tag? id with
    | some tag =>
      rw [code_of_tag hempty htag]
      simp [orFault, htag]
    | none =>
      simp only [code, hempty, htag, Error.raised_of_isWritable writable]
      simp [orFault, htag]

theorem propertyCode_eq_orFault (tags : TagMap) {id : Int} (short : Value.isShort id = true) :
    propertyCode tags id = orFault (codeOf tags id) (untagged tags .untaggedProperty [id]) :=
  code_eq_orFault tags short short

theorem stepCode_eq_orFault (tags : TagMap) (field : SavedField) {step : Option Int}
    (short : ∀ id ∈ step, Value.isShort id = true) : stepCode tags field step =
      orFault (optionalCodeOf tags step) (untagged tags (.untaggedStep field) step.toList) := by
  cases step with
  | none =>
    rw [Option.toList_none, untagged_nil]
    rfl
  | some id => exact code_eq_orFault tags (short id rfl) (short id rfl)

/-- The step before a step was written already, so that it is no fault any more. -/
theorem linkRecords_eq_orFault {path : List Int} (short : ∀ id ∈ path, Value.isShort id = true)
    {previous : Option Int} (before : ∀ id ∈ previous, Value.isShort id = true)
    (h : untagged tags (.untaggedStep .history) previous.toList = []) :
    linkRecords tags previous path =
      orFault ((linksOf previous path).map fun l => record (linkFields tags l))
        (untagged tags (.untaggedStep .history) path) := by
  induction path generalizing previous with
  | nil =>
    rw [untagged_nil]
    rfl
  | cons step rest ih =>
    obtain ⟨hstep, hrest⟩ := List.forall_mem_cons.1 short
    have hsome : ∀ id ∈ some step, Value.isShort id = true := fun id hid => Option.some.inj hid ▸ hstep
    rw [linkRecords, untagged_cons, stepCode_eq_orFault tags _ hsome, stepCode_eq_orFault tags _ before, h]
    refine orFault_bind fun hempty => ?_
    change (linkRecords tags (some step) rest >>= _) = _
    rw [ih hrest hsome hempty]
    exact orFault_bind_pure ..

theorem variableRecords_eq_orFault (tags : TagMap) {es : List (Int × Value)}
    (short : ∀ id ∈ es.map Prod.fst, Value.isShort id = true) :
    variableRecords tags es = orFault (es.map fun x => record (variableFields tags x))
      (untagged tags .untaggedProperty (es.map Prod.fst)) := by
  induction es with
  | nil =>
    rw [List.map_nil (f := Prod.fst), untagged_nil]
    rfl
  | cons x rest ih =>
    rw [List.map_cons (f := Prod.fst)] at short ⊢
    obtain ⟨hx, hrest⟩ := List.forall_mem_cons.1 short
    rw [variableRecords, untagged_cons, propertyCode_eq_orFault tags hx, ih hrest]
    exact orFault_bind fun _ => orFault_bind_pure ..

theorem choiceRecords_eq_orFault (tags : TagMap) {es : List (Int × Int)}
    (short : ∀ id ∈ es.map Prod.fst, Value.isShort id = true) :
    choiceRecords tags es = orFault (es.map fun x => record (choiceFields tags x))
      (untagged tags (.untaggedStep .choices) (es.map Prod.fst)) := by
  induction es with
  | nil =>
    rw [List.map_nil (f := Prod.fst), untagged_nil]
    rfl
  | cons x rest ih =>
    rw [List.map_cons (f := Prod.fst)] at short ⊢
    obtain ⟨hx, hrest⟩ := List.forall_mem_cons.1 short
    have hsome : ∀ id ∈ some x.1, Value.isShort id = true := fun id hid => Option.some.inj hid ▸ hx
    rw [choiceRecords, untagged_cons, stepCode_eq_orFault tags _ hsome, ih hrest]
    exact orFault_bind fun _ => orFault_bind_pure ..

/-- **A snapshot has a document**, or its first fault ends the writing. -/
theorem document_eq_orFault (stepTags propertyTags : TagMap) {s : Snapshot}
    (steps : ∀ id ∈ s.current.toList ++ s.history ++ s.choices.keys, Value.isShort id = true)
    (properties : ∀ id ∈ s.values.keys, Value.isShort id = true) : document stepTags propertyTags s =
      orFault (record (snapshotFields stepTags propertyTags s)) (faults stepTags propertyTags s) := by
  obtain ⟨hpath, hchoices⟩ := List.forall_mem_append.1 steps
  obtain ⟨hcurrent, hhistory⟩ := List.forall_mem_append.1 hpath
  have hlinks : linkRecords stepTags none s.history = _ :=
    linkRecords_eq_orFault hhistory (fun id hid => (Option.not_mem_none id hid).elim) (untagged_nil _ _)
  unfold document faults
  rw [stepCode_eq_orFault _ _ fun id hid => hcurrent id (Option.mem_toList.2 hid), hlinks,
    variableRecords_eq_orFault _ properties, choiceRecords_eq_orFault _ hchoices]
  exact orFault_bind fun _ => orFault_bind fun _ => orFault_bind fun _ => orFault_bind_pure ..

/-! ## The document has a text -/

theorem writable_record {fields : List (String × Value)} (h : ∀ f ∈ fields, Json.Writable f.2) :
    Json.Writable (record fields) := by
  refine .dict fun e he => ?_
  obtain ⟨f, hf, rfl⟩ := List.mem_map.1 he
  exact h f hf

theorem writable_records {α : Type} (es : List α) (fields : α → List (String × Value))
    (h : ∀ e ∈ es, ∀ f ∈ fields e, Json.Writable f.2) :
    Json.Writable (.list (es.map fun e => record (fields e))) := by
  refine .list fun v hv => ?_
  obtain ⟨e, he, rfl⟩ := List.mem_map.1 hv
  exact writable_record (h e he)

/-- **A document has a text** if its values have one and the numbers of its choices are not too long. -/
theorem writable_document (values : ∀ x ∈ s.values.entries, Json.Writable (plainValue x.2))
    (choices : ∀ x ∈ s.choices.entries, Value.isShort x.2 = true) :
    Json.Writable (record (snapshotFields stepTags propertyTags s)) := by
  have hvalues := writable_records s.values.entries (variableFields propertyTags) fun x hx =>
    List.forall_mem_cons.2 ⟨.text _, List.forall_mem_singleton.2 (values x hx)⟩
  have hlinks := writable_records (linksOf none s.history) (linkFields stepTags) fun l _ =>
    List.forall_mem_cons.2 ⟨.text _, List.forall_mem_singleton.2 (.text _)⟩
  have hchoices := writable_records s.choices.entries (choiceFields stepTags) fun x hx =>
    List.forall_mem_cons.2 ⟨.text _, List.forall_mem_singleton.2 (.int (choices x hx))⟩
  refine writable_record (List.forall_mem_cons.2 ⟨.text _, List.forall_mem_cons.2 ⟨hvalues, ?_⟩⟩)
  exact List.forall_mem_cons.2 ⟨hlinks, List.forall_mem_singleton.2 hchoices⟩

end Saved
end Walkthrough
