/-
# What becomes of the records of a document

A document has three lists of records. Their codes may be spelt in many ways, so that two records may turn out to be
about one thing only when they are read. Each list deals with this in its own way:

| records | become | two about one thing |
| --- | --- | --- |
| values | the values of their properties, in order; those with unknown tags are passed over | are refused |
| links of the history | steps, each behind the one that it names | are refused |
| choices | the choices of their steps | the later one wins |

A step whose link names no step, or one without a record of its own, comes first, and there is only one such step. For
values and links nothing is lost, therefore (`Parts.Kept`), and records at odds with each other are refused
(`read_lossless`). A choice is lost only if another record has another choice for its step.
-/

import Mathlib.Data.List.Forall2
import Walkthrough.Proofs.Saved.RoundTrip

namespace Walkthrough
namespace Saved

variable {tags stepTags propertyTags : TagMap} {s : Snapshot} {d : Parts} {text : String}

/-! ## What a record says -/

/-- The property and the value of a record; none if the property has an unknown tag. -/
def Variable.entry? (tags : TagMap) (v : Variable) : Option (Int × Value) :=
  match propertyId tags v.name with
  | .ok (some id) => some (id, v.value)
  | _ => none

/-- **What a link says**: of which step it is, and which step is before it, if any. -/
structure Link.Says (tags : TagMap) (l : Link) (x : Int × Option Int) : Prop where
  step : stepId tags .history l.step = .ok x.1
  previous : optionalStepId tags .history l.previous = .ok x.2

/-- **What the record of a choice says**: the step and the choice. -/
structure Selection.Says (tags : TagMap) (c : Selection) (x : Int × Int) : Prop where
  step : stepId tags .choices c.step = .ok x.1
  choice : positive? (Text.strip c.choice) = some x.2

theorem Link.Says.unique {l : Link} {x y : Int × Option Int} (h : l.Says tags x) (h' : l.Says tags y) : x = y :=
  Prod.ext (Except.ok.inj (h.step.symm.trans h'.step)) (Except.ok.inj (h.previous.symm.trans h'.previous))

/-! ## Reading the records -/

/-- What is read of the parts of a document, one part after the other. -/
structure Parts.Reads (stepTags propertyTags : TagMap) (d : Parts) (s : Snapshot) (links : Links) : Prop where
  current : optionalStepId stepTags .step d.step = .ok s.current
  values : readVariables propertyTags .empty d.values = .ok s.values
  linked : readLinks stepTags .empty d.history = .ok links
  choices : readChoices stepTags .empty d.choices = .ok s.choices
  history : orderedHistory links = .ok s.history

theorem exists_reads (h : d.snapshot stepTags propertyTags = .ok s) :
    ∃ links, d.Reads stepTags propertyTags s links := by
  obtain ⟨current, hcurrent, h⟩ := bind_eq_ok h
  obtain ⟨values, hvalues, h⟩ := bind_eq_ok h
  obtain ⟨links, hlinks, h⟩ := bind_eq_ok h
  obtain ⟨choices, hchoices, h⟩ := bind_eq_ok h
  obtain ⟨history, hhistory, h⟩ := bind_eq_ok h
  cases h
  exact ⟨links, hcurrent, hvalues, hlinks, hchoices, hhistory⟩

/-- An accepted text has parts that can be read. -/
theorem exists_parts (h : read stepTags propertyTags text = .ok s) :
    ∃ v d, Json.read? text = some v ∧ parts? v = some d ∧ ∃ links, d.Reads stepTags propertyTags s links := by
  unfold read at h
  split at h
  · cases h
  · next d hd =>
    obtain ⟨v, hv, hparts⟩ := Option.bind_eq_some_iff.1 hd
    exact ⟨v, d, hv, hparts, exists_reads h⟩

/-- A new entry comes last. -/
theorem entries_insert_of_new {κ ν : Type} [DecidableEq κ] {m : OrderedMap κ ν} {k : κ} (h : m.contains k = false)
    (v : ν) : (m.insert k v).entries = m.entries ++ [(k, v)] := by
  refine OrderedMap.put_of_not_mem fun hk => ?_
  rw [Bool.eq_false_iff] at h
  exact h (OrderedMap.contains_iff.2 (OrderedMap.mem_keys_iff.1 hk))

/-- **The values of records** are kept in order. -/
theorem readVariables_ok {records : List Variable} {values out : OrderedMap Int Value}
    (h : readVariables tags values records = .ok out) :
    out.entries = values.entries ++ records.filterMap (Variable.entry? tags) := by
  induction records generalizing values with
  | nil =>
    cases h
    exact (List.append_nil _).symm
  | cons v rest ih =>
    obtain ⟨id?, hid, h⟩ := bind_eq_ok h
    rw [List.filterMap_cons]
    cases id? with
    | none =>
      have hentry : v.entry? tags = none := by rw [Variable.entry?, hid]
      rw [hentry]
      exact ih h
    | some id =>
      have hentry : v.entry? tags = some (id, v.value) := by rw [Variable.entry?, hid]
      rw [hentry]
      dsimp only at h
      split at h
      · cases h
      · next hnew =>
        rw [ih h, entries_insert_of_new (by simpa using hnew), List.append_assoc]
        rfl

/-- **The links of records** are kept in order. -/
theorem readLinks_ok {records : List Link} {links out : Links} (h : readLinks tags links records = .ok out) :
    ∃ es, List.Forall₂ (Link.Says tags) records es ∧ out.entries = links.entries ++ es := by
  induction records generalizing links with
  | nil =>
    cases h
    exact ⟨[], .nil, (List.append_nil _).symm⟩
  | cons l rest ih =>
    obtain ⟨step, hstep, h⟩ := bind_eq_ok h
    obtain ⟨previous, hprevious, h⟩ := bind_eq_ok h
    split at h
    · cases h
    · next hnew =>
      obtain ⟨es, hes, hout⟩ := ih h
      refine ⟨(step, previous) :: es, .cons ⟨hstep, hprevious⟩ hes, ?_⟩
      rw [hout, entries_insert_of_new (by simpa using hnew), List.append_assoc]
      rfl

/-- The choices of records are put in one after the other. -/
theorem readChoices_ok {records : List Selection} {choices out : OrderedMap Int Int}
    (h : readChoices tags choices records = .ok out) :
    ∃ es, List.Forall₂ (Selection.Says tags) records es ∧ out = choices.insertAll es := by
  induction records generalizing choices with
  | nil =>
    cases h
    exact ⟨[], .nil, rfl⟩
  | cons c rest ih =>
    obtain ⟨step, hstep, h⟩ := bind_eq_ok h
    split at h
    · next choice hchoice =>
      obtain ⟨es, hes, hout⟩ := ih h
      exact ⟨(step, choice) :: es, .cons ⟨hstep, hchoice⟩ hes, hout⟩
    · cases h

/-! ## Records and what they say -/

section Forall₂

variable {α β : Type} {R : α → β → Prop} {as as' : List α} {bs : List β}

theorem exists_right (h : List.Forall₂ R as bs) {a : α} (ha : a ∈ as) : ∃ b ∈ bs, R a b := by
  induction h with
  | nil => cases ha
  | cons hab _ ih =>
    rcases List.mem_cons.1 ha with rfl | ha
    · exact ⟨_, List.mem_cons_self, hab⟩
    · obtain ⟨b, hb, hab⟩ := ih ha
      exact ⟨b, List.mem_cons_of_mem _ hb, hab⟩

theorem exists_left (h : List.Forall₂ R as bs) {b : β} (hb : b ∈ bs) : ∃ a ∈ as, R a b :=
  exists_right h.flip hb

theorem exists_sublist (h : List.Forall₂ R as bs) (hsub : as'.Sublist as) :
    ∃ bs', bs'.Sublist bs ∧ List.Forall₂ R as' bs' := by
  induction h generalizing as' with
  | nil =>
    obtain rfl := List.sublist_nil.1 hsub
    exact ⟨[], .slnil, .nil⟩
  | cons hab _ ih =>
    cases hsub with
    | cons _ hsub =>
      obtain ⟨bs', hbs, h⟩ := ih hsub
      exact ⟨bs', hbs.cons _, h⟩
    | cons_cons _ hsub =>
      obtain ⟨bs', hbs, h⟩ := ih hsub
      exact ⟨_, hbs.cons_cons _, .cons hab h⟩

end Forall₂

/-! ## What is kept -/

/-- **Where the step of a link stands**: right behind the step that the link names, or first, if it names none, or
one that is not in the history. -/
inductive StandsBehind (history : List Int) (step : Int) : Option Int → Prop where
  | behind {p : Int} {i : Nat} (before : history[i]? = some p) (here : history[i + 1]? = some step) :
    StandsBehind history step (some p)
  | first {previous : Option Int} (head : history.head? = some step)
    (unknown : ∀ p, previous = some p → p ∉ history) : StandsBehind history step previous

/-- **Links in a history**: it consists of their steps, each once and each where its link puts it. -/
structure InHistory (history : List Int) (es : List (Int × Option Int)) : Prop where
  steps : history.Perm (es.map Prod.fst)
  nodup : history.Nodup
  stands : ∀ x ∈ es, StandsBehind history x.1 x.2

/-- **What is kept** of the parts of a document. -/
structure Parts.Kept (stepTags propertyTags : TagMap) (d : Parts) (s : Snapshot) : Prop where
  values : s.values.entries = d.values.filterMap (Variable.entry? propertyTags)
  history : ∃ es, List.Forall₂ (Link.Says stepTags) d.history es ∧ InHistory s.history es
  choices : ∀ c ∈ d.choices, ∃ x, c.Says stepTags x ∧ (s.choices.get? x.1 = some x.2 ∨
    ∃ c' ∈ d.choices, ∃ y, c'.Says stepTags y ∧ y.1 = x.1 ∧ y.2 ≠ x.2)

/-- Links that were put in a row. -/
theorem Ordered.inHistory {links : Links} {history : List Int} (h : Ordered links history) :
    InHistory history links.entries where
  steps := h.keys
  nodup := h.nodup
  stands := by
    rintro ⟨step, previous⟩ hx
    have hlink : links.get? step = some previous := OrderedMap.get?_eq_some_iff.2 hx
    by_cases hfirst : history.head? = some step
    · refine .first hfirst fun p hp hmem => ?_
      have hknown := OrderedMap.contains_iff.2 (OrderedMap.mem_keys_iff.1 (h.keys.mem_iff.1 hmem))
      rw [h.root step hfirst p (hp ▸ hlink)] at hknown
      cases hknown
    · have hmem : step ∈ history := h.keys.mem_iff.2 (List.mem_map_of_mem hx)
      obtain ⟨i, p, hp, hstep, hbefore⟩ := exists_before h.linked hmem hfirst
      obtain rfl : previous = some p := Option.some.inj (hlink.symm.trans hbefore)
      exact .behind hp hstep

/-- The choices that are read are those of records. -/
theorem Parts.Reads.exists_choice {links : Links} (h : d.Reads stepTags propertyTags s links) {x : Int × Int}
    (hx : x ∈ s.choices.entries) : ∃ c ∈ d.choices, c.Says stepTags x := by
  obtain ⟨es, hes, hchoices⟩ := readChoices_ok h.choices
  rw [hchoices] at hx
  exact exists_left hes (OrderedMap.mem_of_mem_ofList hx)

/-- The choice of a record is read, as far as no other record has another choice for the step. -/
theorem Parts.Reads.choice {links : Links} (h : d.Reads stepTags propertyTags s links) {c : Selection}
    (hc : c ∈ d.choices) : ∃ x, c.Says stepTags x ∧ (s.choices.get? x.1 = some x.2 ∨
      ∃ c' ∈ d.choices, ∃ y, c'.Says stepTags y ∧ y.1 = x.1 ∧ y.2 ≠ x.2) := by
  obtain ⟨es, hes, hchoices⟩ := readChoices_ok h.choices
  obtain ⟨x, hx, hsays⟩ := exists_right hes hc
  obtain ⟨choice, hget⟩ : ∃ choice, s.choices.get? x.1 = some choice := by
    rw [← OrderedMap.mem_keys_iff, hchoices]
    exact (OrderedMap.mem_keys_insertAll es x.1).2 (.inr (List.mem_map_of_mem hx))
  refine ⟨x, hsays, ?_⟩
  by_cases hsame : choice = x.2
  · exact .inl (hsame ▸ hget)
  · obtain ⟨c', hc', hsays'⟩ := h.exists_choice (OrderedMap.get?_eq_some_iff.1 hget)
    exact .inr ⟨c', hc', _, hsays', rfl, hsame⟩

theorem Parts.Reads.kept {links : Links} (h : d.Reads stepTags propertyTags s links) :
    d.Kept stepTags propertyTags s where
  values := readVariables_ok h.values
  history := by
    obtain ⟨es, hes, hlinks⟩ := readLinks_ok h.linked
    have hentries : links.entries = es := hlinks
    exact ⟨es, hes, hentries ▸ (ordered_of_orderedHistory h.history).inHistory⟩
  choices _ hc := h.choice hc

/-! ## Records at odds -/

/-- Two values for one property. -/
def Variable.AtOdds (tags : TagMap) (v w : Variable) : Prop :=
  ∃ id, propertyId tags v.name = .ok (some id) ∧ propertyId tags w.name = .ok (some id)

/-- **Two links at odds**: they are of one step, or behind one step, or each is behind the other, or neither is behind
a step that has a link. -/
inductive LinksAtOdds (linked : Int → Prop) (x y : Int × Option Int) : Prop where
  | step (same : x.1 = y.1)
  | branch {p : Int} (hx : x.2 = some p) (hy : y.2 = some p)
  | circle (hx : x.2 = some y.1) (hy : y.2 = some x.1)
  | roots (hx : ∀ p, x.2 = some p → ¬linked p) (hy : ∀ p, y.2 = some p → ¬linked p)

/-- Two records of links that are at odds. -/
def Parts.AtOdds (tags : TagMap) (d : Parts) (l m : Link) : Prop :=
  ∃ x y, l.Says tags x ∧ m.Says tags y ∧
    LinksAtOdds (fun p => ∃ k ∈ d.history, stepId tags .history k.step = .ok p) x y

section StandsBehind

variable {history : List Int} {step p : Int} {previous : Option Int} {linked : Int → Prop}
  {es : List (Int × Option Int)} {x y : Int × Option Int}

theorem StandsBehind.exists_before (h : StandsBehind history step (some p)) (hp : p ∈ history) :
    ∃ i, history[i]? = some p ∧ history[i + 1]? = some step := by
  cases h with
  | behind before here => exact ⟨_, before, here⟩
  | first head unknown => exact absurd hp (unknown p rfl)

theorem StandsBehind.head (h : StandsBehind history step previous) (unknown : ∀ p, previous = some p → p ∉ history) :
    history.head? = some step := by
  cases h with
  | behind before here => exact absurd (List.mem_of_getElem? before) (unknown _ rfl)
  | first head _ => exact head

theorem index_unique (nodup : history.Nodup) {i j : Nat} (hi : history[i]? = some p) (hj : history[j]? = some p) :
    i = j :=
  (List.getElem?_inj (List.getElem?_eq_some_iff.1 hi).1 nodup).1 (hi.trans hj.symm)

/-- **Two links in a history are not at odds.** -/
theorem InHistory.not_atOdds (h : InHistory history es) (hxy : [x, y].Sublist es) (hlinked : ∀ p ∈ history, linked p) :
    ¬LinksAtOdds linked x y := by
  have hx : x ∈ es := hxy.subset List.mem_cons_self
  have hy : y ∈ es := hxy.subset (List.mem_cons_of_mem _ List.mem_cons_self)
  have hne : x.1 ≠ y.1 := by
    have hnodup := (h.steps.nodup_iff.1 h.nodup).sublist (hxy.map Prod.fst)
    exact fun heq => (List.nodup_cons.1 hnodup).1 (heq ▸ List.mem_cons_self)
  have hbehind {z : Int × Option Int} (hz : z ∈ es) {p : Int} (hp : z.2 = some p) (hmem : p ∈ history) :
      ∃ i, history[i]? = some p ∧ history[i + 1]? = some z.1 := (hp ▸ h.stands z hz).exists_before hmem
  have hhead (hx' : ∀ p, x.2 = some p → p ∉ history) (hy' : ∀ p, y.2 = some p → p ∉ history) : False :=
    hne (Option.some.inj (((h.stands x hx).head hx').symm.trans ((h.stands y hy).head hy')))
  intro hodds
  cases hodds with
  | step same => exact hne same
  | @branch p hpx hpy =>
    -- Only one step is right behind a step of the history, and only one is first.
    by_cases hmem : p ∈ history
    · obtain ⟨i, hi, hix⟩ := hbehind hx hpx hmem
      obtain ⟨j, hj, hjy⟩ := hbehind hy hpy hmem
      obtain rfl := index_unique h.nodup hi hj
      exact hne (Option.some.inj (hix.symm.trans hjy))
    · exact hhead (fun q hq => Option.some.inj (hpx.symm.trans hq) ▸ hmem)
        fun q hq => Option.some.inj (hpy.symm.trans hq) ▸ hmem
  | circle hpx hpy =>
    -- Each would have the place after that of the other.
    obtain ⟨i, hi, hix⟩ := hbehind hx hpx (h.steps.mem_iff.2 (List.mem_map_of_mem hy))
    obtain ⟨j, hj, hjy⟩ := hbehind hy hpy (h.steps.mem_iff.2 (List.mem_map_of_mem hx))
    have hij := index_unique h.nodup hix hj
    have hji := index_unique h.nodup hjy hi
    omega
  | roots hpx hpy => exact hhead (fun p hp hmem => hpx p hp (hlinked p hmem)) fun p hp hmem => hpy p hp (hlinked p hmem)

end StandsBehind

theorem Parts.Kept.values_not_atOdds (h : d.Kept stepTags propertyTags s) {v w : Variable}
    (hvw : [v, w].Sublist d.values) : ¬v.AtOdds propertyTags w := by
  rintro ⟨id, hv, hw⟩
  have hsub := (hvw.filterMap (Variable.entry? propertyTags)).map Prod.fst
  rw [← h.values] at hsub
  have hentries : [v, w].filterMap (Variable.entry? propertyTags) = [(id, v.value), (id, w.value)] := by
    simp only [List.filterMap_cons, Variable.entry?, hv, hw, List.filterMap_nil]
  rw [hentries] at hsub
  exact (List.nodup_cons.1 (s.values.nodup.sublist hsub)).1 List.mem_cons_self

theorem Parts.Kept.history_not_atOdds (h : d.Kept stepTags propertyTags s) {l m : Link}
    (hlm : [l, m].Sublist d.history) : ¬d.AtOdds stepTags l m := by
  rintro ⟨x, y, hx, hy, hodds⟩
  obtain ⟨es, hes, hhistory⟩ := h.history
  obtain ⟨_, hsub, hpair⟩ := exists_sublist hes hlm
  obtain _ | ⟨hx', _ | ⟨hy', _ | _⟩⟩ := hpair
  obtain rfl := hx.unique hx'
  obtain rfl := hy.unique hy'
  refine hhistory.not_atOdds hsub (fun p hp => ?_) hodds
  obtain ⟨z, hz, rfl⟩ := List.mem_map.1 (hhistory.steps.mem_iff.1 hp)
  obtain ⟨k, hk, hsays⟩ := exists_left hes hz
  exact ⟨k, hk, hsays.step⟩

/-- **Nothing is lost in reading.** In a text that is accepted each value of a known property is kept. The history
consists of the steps of the links, each right behind the one that its link names, or first if that one has no link
of its own. Each choice is there, unless another record has another choice for its step. A text in which two values or
two links are at odds is refused. -/
theorem read_lossless (stepTags propertyTags : TagMap) (text : String) :
    (∀ s, read stepTags propertyTags text = .ok s →
      ∃ d, (Json.read? text).bind parts? = some d ∧ d.Kept stepTags propertyTags s) ∧
    ∀ d, (Json.read? text).bind parts? = some d →
      (∀ v w, [v, w].Sublist d.values → v.AtOdds propertyTags w →
        ∃ err, read stepTags propertyTags text = .error err) ∧
      ∀ l m, [l, m].Sublist d.history → d.AtOdds stepTags l m →
        ∃ err, read stepTags propertyTags text = .error err := by
  have hkept : ∀ s, read stepTags propertyTags text = .ok s →
      ∃ d, (Json.read? text).bind parts? = some d ∧ d.Kept stepTags propertyTags s := fun s h => by
    obtain ⟨v, d, hv, hd, links, hreads⟩ := exists_parts h
    exact ⟨d, Option.bind_eq_some_iff.2 ⟨v, hv, hd⟩, hreads.kept⟩
  refine ⟨hkept, fun d hd => ?_⟩
  have hrefused (h : ∀ s, ¬d.Kept stepTags propertyTags s) : ∃ err, read stepTags propertyTags text = .error err := by
    cases hread : read stepTags propertyTags text with
    | error err => exact ⟨err, rfl⟩
    | ok s =>
      obtain ⟨d', hd', hkept⟩ := hkept s hread
      obtain rfl : d' = d := Option.some.inj (hd'.symm.trans hd)
      exact absurd hkept (h s)
  exact ⟨fun v w hvw hodds => hrefused fun s h => h.values_not_atOdds hvw hodds,
    fun l m hlm hodds => hrefused fun s h => h.history_not_atOdds hlm hodds⟩

/-- A text with padded codes and numbers, whose history stands the other way round. -/
def paddedText : String :=
  "\x7b\"step_id\":\"2\",\"variables\":[\x7b\"name\":1,\"value\":\"mine\"\x7d],\"history\":[" ++
    "\x7b\"step_id\":\" 2\",\"prev_step_id\":\"1\"\x7d,\x7b\"step_id\":\"01\",\"prev_step_id\":7\x7d]," ++
    "\"choises\":[\x7b\"step_id\":\"2\",\"choise\":3\x7d]\x7d"

/-- A text with two values of one property. -/
def twiceText : String :=
  "\x7b\"step_id\":\"\",\"variables\":[\x7b\"name\":\"1\",\"value\":\"mine\"\x7d," ++
    "\x7b\"name\":\"+1 \",\"value\":\"yours\"\x7d]\x7d"

/-- A text with two steps behind one. -/
def forkedText : String :=
  "\x7b\"step_id\":\"2\",\"history\":[\x7b\"step_id\":\"2\",\"prev_step_id\":\"1\"\x7d," ++
    "\x7b\"step_id\":\"3\",\"prev_step_id\":\"01\"\x7d,\x7b\"step_id\":\"1\",\"prev_step_id\":\"\"\x7d]\x7d"

/-- The first of these texts is read without loss, the other two are refused. -/
theorem paddedText_lossless :
    (∃ s, read .empty .empty paddedText = .ok s ∧ s.history = [1, 2] ∧
      ∃ d, (Json.read? paddedText).bind parts? = some d ∧ d.Kept .empty .empty s) ∧
    (∃ err, read .empty .empty twiceText = .error err) ∧ ∃ err, read .empty .empty forkedText = .error err := by
  refine ⟨?_, ?_, ?_⟩
  · have hread : (read .empty .empty paddedText).toOption.map Snapshot.history = some [1, 2] := by decide +kernel
    obtain ⟨s, hs, hhistory⟩ := Option.map_eq_some_iff.1 hread
    have hok := ok_of_toOption hs
    exact ⟨s, hok, hhistory, (read_lossless .empty .empty paddedText).1 s hok⟩
  · have hparts : ((Json.read? twiceText).bind parts?).map (fun d => d.values.map Variable.name) =
        some ["1", "+1 "] := by decide +kernel
    obtain ⟨d, hd, hnames⟩ := Option.map_eq_some_iff.1 hparts
    obtain ⟨v, _, hvalues, hv, hnames⟩ := List.map_eq_cons_iff.1 hnames
    obtain ⟨w, _, rfl, hw, -⟩ := List.map_eq_cons_iff.1 hnames
    have hodds : v.AtOdds .empty w := by
      rw [Variable.AtOdds, hv, hw]
      exact ⟨1, ok_of_toOption (by decide +kernel), ok_of_toOption (by decide +kernel)⟩
    have hsub : [v, w].Sublist d.values := by
      rw [hvalues]
      exact (List.nil_sublist _).cons_cons w |>.cons_cons v
    exact ((read_lossless .empty .empty twiceText).2 d hd).1 v w hsub hodds
  · have hparts : ((Json.read? forkedText).bind parts?).map (fun d => d.history.map fun l => (l.step, l.previous)) =
        some [("2", "1"), ("3", "01"), ("1", "")] := by decide +kernel
    obtain ⟨d, hd, hlinks⟩ := Option.map_eq_some_iff.1 hparts
    obtain ⟨⟨_, _⟩, _, hhistory, hl, hlinks⟩ := List.map_eq_cons_iff.1 hlinks
    obtain ⟨⟨_, _⟩, _, rfl, hm, -⟩ := List.map_eq_cons_iff.1 hlinks
    cases hl
    cases hm
    have hodds : d.AtOdds .empty ⟨"2", "1"⟩ ⟨"3", "01"⟩ :=
      ⟨(2, some 1), (3, some 1), ⟨ok_of_toOption (by decide +kernel), ok_of_toOption (by decide +kernel)⟩,
        ⟨ok_of_toOption (by decide +kernel), ok_of_toOption (by decide +kernel)⟩, .branch rfl rfl⟩
    have hsub : [⟨"2", "1"⟩, ⟨"3", "01"⟩].Sublist d.history := by
      rw [hhistory]
      exact (List.nil_sublist _).cons_cons _ |>.cons_cons _
    exact ((read_lossless .empty .empty forkedText).2 d hd).2 _ _ hsub hodds

/-- A text of a history whose only step stands behind one that is not in it. -/
def strayText : String :=
  "\x7b\"step_id\":\"2\",\"history\":[\x7b\"step_id\":\"2\",\"prev_step_id\":\"1\"\x7d]\x7d"

/-- A text with two choices for one step. -/
def undecidedText : String :=
  "\x7b\"step_id\":\"1\",\"choises\":[\x7b\"step_id\":\"1\",\"choise\":1\x7d," ++
    "\x7b\"step_id\":\"1\",\"choise\":2\x7d]\x7d"

/-- The step before the first step of a history can get lost, and so can a choice. -/
theorem strayText_read :
    (∃ (s : Snapshot) (d : Parts), read .empty .empty strayText = .ok s ∧
      (Json.read? strayText).bind parts? = some d ∧
      ∃ l ∈ d.history, l.Says .empty (2, some 1) ∧
        ¬∃ i : Nat, s.history[i]? = some 1 ∧ s.history[i + 1]? = some 2) ∧
    ∃ (s : Snapshot) (d : Parts), read .empty .empty undecidedText = .ok s ∧
      (Json.read? undecidedText).bind parts? = some d ∧
      ∃ c ∈ d.choices, c.Says .empty (1, 1) ∧ s.choices.get? 1 ≠ some 1 := by
  constructor
  · have hread : (read .empty .empty strayText).toOption.map Snapshot.history = some [2] := by decide +kernel
    have hparts : ((Json.read? strayText).bind parts?).map (fun d => d.history.map fun l => (l.step, l.previous)) =
        some [("2", "1")] := by decide +kernel
    obtain ⟨s, hs, hhistory⟩ := Option.map_eq_some_iff.1 hread
    obtain ⟨d, hd, hlinks⟩ := Option.map_eq_some_iff.1 hparts
    obtain ⟨⟨_, _⟩, _, hrecords, hl, -⟩ := List.map_eq_cons_iff.1 hlinks
    cases hl
    refine ⟨s, d, ok_of_toOption hs, hd, _, hrecords ▸ List.mem_cons_self,
      ⟨ok_of_toOption (by decide +kernel), ok_of_toOption (by decide +kernel)⟩, ?_⟩
    rintro ⟨i, hbefore, -⟩
    rw [hhistory] at hbefore
    cases List.mem_singleton.1 (List.mem_of_getElem? hbefore)
  · have hread : (read .empty .empty undecidedText).toOption.map (fun s => s.choices.get? 1) = some (some 2) := by
      decide +kernel
    have hparts : ((Json.read? undecidedText).bind parts?).map (fun d => d.choices.map fun c => (c.step, c.choice)) =
        some [("1", "1"), ("1", "2")] := by decide +kernel
    obtain ⟨s, hs, hchoice⟩ := Option.map_eq_some_iff.1 hread
    obtain ⟨d, hd, hchoices⟩ := Option.map_eq_some_iff.1 hparts
    obtain ⟨⟨_, _⟩, _, hrecords, hc, -⟩ := List.map_eq_cons_iff.1 hchoices
    cases hc
    refine ⟨s, d, ok_of_toOption hs, hd, _, hrecords ▸ List.mem_cons_self,
      ⟨ok_of_toOption (by decide +kernel), by decide +kernel⟩, ?_⟩
    rw [hchoice]
    decide

end Saved
end Walkthrough
