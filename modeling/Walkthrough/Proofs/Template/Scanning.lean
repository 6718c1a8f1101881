/-
# Which tags are found

Tags are found by trying one place after the other (`tagsFrom`). Here the same is said by places alone. A
tag could begin where the opening mark stands and a closing mark stands at its end or later (`BeginsAt`). A
tag ends with the first such closing mark (`IsTag`). A scan takes the first place at which a tag could begin
and goes on behind that tag, until there is no such place (`Scan`).

There is exactly one scan of a template, and it gives the tags that are found (`tags_exact`). So the tags
stand one behind the other, and what is left between them holds no tag (`Scan.literals`).
-/

import Mathlib.Data.List.Infix
import Walkthrough.Proofs.Text.Search
import Walkthrough.Template

namespace Walkthrough
namespace Template

open Text (StandsAt)

variable {opening closing cs inner : List Char} {p q n : Nat} {t u : Tag} {found : List Tag}

/-! ## Tags by their places -/

/-- A tag could begin at a place: the opening mark stands there, and a closing mark at its end or later. -/
def BeginsAt (opening closing cs : List Char) (p : Nat) : Prop :=
  StandsAt opening cs p ∧ ∃ q, p + opening.length ≤ q ∧ StandsAt closing cs q

/-- The text of a tag, its marks included. -/
def Tag.text (cs : List Char) (t : Tag) : List Char := (cs.take t.stop).drop t.start

/-- **A tag of a text** is an opening mark, an inner text and the first closing mark behind the opening one. -/
structure IsTag (opening closing cs : List Char) (t : Tag) : Prop where
  text : cs.drop t.start = opening ++ (t.inner.toList ++ (closing ++ cs.drop t.stop))
  stop_eq : t.stop = t.start + (opening.length + t.inner.length + closing.length)
  first : ∀ k < t.inner.length, ¬StandsAt closing cs (t.start + opening.length + k)

/-- **A scan** of a text from a place on: the tag at the first place at which one could begin, and the scan
from its end on. -/
inductive Scan (opening closing cs : List Char) : Nat → List Tag → Prop
  | done {p : Nat} (none : ∀ q, p ≤ q → ¬BeginsAt opening closing cs q) : Scan opening closing cs p []
  | tag {p : Nat} {t : Tag} {rest : List Tag} (le : p ≤ t.start)
      (first : ∀ q, p ≤ q → q < t.start → ¬BeginsAt opening closing cs q)
      (isTag : IsTag opening closing cs t) (next : Scan opening closing cs t.stop rest) :
      Scan opening closing cs p (t :: rest)

theorem beginsAt_drop : BeginsAt opening closing (cs.drop p) 0 ↔ BeginsAt opening closing cs p := by
  unfold BeginsAt
  rw [Text.standsAt_drop, Nat.add_zero]
  refine and_congr_right fun _ => ⟨fun ⟨q, hq, hc⟩ => ?_, fun ⟨q, hq, hc⟩ => ?_⟩
  · exact ⟨p + q, by omega, Text.standsAt_drop.1 hc⟩
  · exact ⟨q - p, by omega, Text.standsAt_drop.2 (by rwa [Nat.add_sub_cancel' (by omega)])⟩

/-- A tag takes up characters of the text unless both marks are empty. -/
theorem BeginsAt.lt_length (h : BeginsAt opening closing cs p) (marked : 0 < opening.length + closing.length) :
    p < cs.length := by
  obtain ⟨ho, q, hq, hc⟩ := h
  rcases Nat.eq_zero_or_pos opening.length with hzero | hpos
  · have := hc.add_length_le (by omega)
    omega
  · have := ho.add_length_le hpos
    omega

namespace IsTag

theorem opens (h : IsTag opening closing cs t) : StandsAt opening cs t.start := ⟨_, h.text.symm⟩

theorem closes (h : IsTag opening closing cs t) :
    StandsAt closing cs (t.start + opening.length + t.inner.length) := by
  refine ⟨cs.drop t.stop, ?_⟩
  have hlength : (opening ++ t.inner.toList).length = opening.length + t.inner.length := by
    rw [List.length_append, String.length_toList]
  rw [Nat.add_assoc, ← List.drop_drop, h.text, ← List.append_assoc, List.drop_left' hlength]

theorem beginsAt (h : IsTag opening closing cs t) : BeginsAt opening closing cs t.start :=
  ⟨h.opens, _, Nat.le_add_right _ _, h.closes⟩

theorem stop_le (h : IsTag opening closing cs t) (hstart : t.start ≤ cs.length) : t.stop ≤ cs.length := by
  have hlength := congrArg List.length h.text
  simp only [List.length_drop, List.length_append, String.length_toList] at hlength
  have := h.stop_eq
  omega

theorem text_eq (h : IsTag opening closing cs t) : Tag.text cs t = opening ++ t.inner.toList ++ closing := by
  rw [Tag.text, List.drop_take, h.text, ← List.append_assoc, ← List.append_assoc]
  refine List.take_left' ?_
  have := h.stop_eq
  simp only [List.length_append, String.length_toList]
  omega

/-- There is one tag at most at a place. -/
theorem unique (h : IsTag opening closing cs t) (h' : IsTag opening closing cs u) (hstart : t.start = u.start) :
    t = u := by
  have hnot : ∀ {t u : Tag}, IsTag opening closing cs t → IsTag opening closing cs u → t.start = u.start →
      ¬t.inner.length < u.inner.length := fun ht hu heq hlt => hu.first _ hlt (heq ▸ ht.closes)
  have hlength : t.inner.length = u.inner.length :=
    Nat.le_antisymm (Nat.not_lt.1 (hnot h' h hstart.symm)) (Nat.not_lt.1 (hnot h h' hstart))
  have htext := h.text
  rw [hstart, h'.text] at htext
  have hinner := (List.append_inj (List.append_cancel_left htext)
    (by rw [String.length_toList, String.length_toList, hlength])).1
  have hstop : t.stop = u.stop := by rw [h.stop_eq, h'.stop_eq, hstart, hlength]
  exact Prod.ext hstart (Prod.ext hstop (String.toList_inj.1 hinner.symm))

end IsTag

/-! ## The search -/

theorem innerAt?_eq_some_iff : innerAt? opening closing cs = some inner ↔
    ∃ after, cs = opening ++ (inner ++ (closing ++ after)) ∧
      ∀ k < inner.length, ¬StandsAt closing cs (opening.length + k) := by
  unfold innerAt?
  rw [Option.bind_eq_some_iff]
  constructor
  · rintro ⟨rest, hrest, hinner⟩
    obtain ⟨⟨_, after⟩, hsplit, rfl⟩ := Option.map_eq_some_iff.1 hinner
    rw [Text.afterMark?_eq_some_iff] at hrest
    obtain ⟨rfl, hfirst⟩ := Text.splitAt?_eq_some_iff.1 hsplit
    refine ⟨after, hrest, fun k hk => ?_⟩
    rw [← Text.standsAt_drop, hrest, List.drop_left]
    exact hfirst k hk
  · rintro ⟨after, rfl, hfirst⟩
    refine ⟨_, Text.afterMark?_eq_some_iff.2 rfl, Option.map_eq_some_iff.2 ⟨(inner, after), ?_, rfl⟩⟩
    refine Text.splitAt?_eq_some_iff.2 ⟨rfl, fun k hk hstands => hfirst k hk ?_⟩
    rwa [← Text.standsAt_drop, List.drop_left]

theorem innerAt?_eq_none_iff :
    innerAt? opening closing cs = none ↔ ¬BeginsAt opening closing cs 0 := by
  unfold innerAt? BeginsAt
  rw [Option.bind_eq_none_iff, Text.standsAt_zero]
  constructor
  · rintro h ⟨⟨rest, rfl⟩, q, hq, hc⟩
    have hnone := Option.map_eq_none_iff.1 (h rest (Text.afterMark?_eq_some_iff.2 rfl))
    refine Text.splitAt?_eq_none_iff.1 hnone (q - opening.length) ?_
    have hrest : (opening ++ rest).drop opening.length = rest := List.drop_left
    rw [← hrest, Text.standsAt_drop, Nat.add_sub_cancel' (by omega)]
    exact hc
  · intro h rest hrest
    rw [Text.afterMark?_eq_some_iff] at hrest
    refine Option.map_eq_none_iff.2 (Text.splitAt?_eq_none_iff.2 fun k hk => h ⟨⟨rest, hrest.symm⟩, ?_⟩)
    refine ⟨opening.length + k, by omega, ?_⟩
    rwa [← Text.standsAt_drop, hrest, List.drop_left]

/-- What is found at a place is the tag there. -/
theorem isTag_of_innerAt? (h : innerAt? opening closing (cs.drop p) = some inner) :
    IsTag opening closing cs
      (p, p + (opening.length + inner.length + closing.length), String.ofList inner) := by
  obtain ⟨after, htext, hfirst⟩ := innerAt?_eq_some_iff.1 h
  refine ⟨?_, ?_, fun k hk => ?_⟩
  · have hafter : cs.drop (p + (opening.length + inner.length + closing.length)) = after := by
      rw [← List.drop_drop, htext, ← List.append_assoc, ← List.append_assoc]
      exact List.drop_left' (by simp [Nat.add_assoc])
    rw [String.toList_ofList, hafter]
    exact htext
  · rw [String.length_ofList]
  · rw [Nat.add_assoc, ← Text.standsAt_drop]
    exact hfirst k (by rwa [String.length_ofList] at hk)

/-- Passing over characters of a tag. -/
theorem tagsFrom_passed (k : Nat) :
    tagsFrom opening closing p k cs = tagsFrom opening closing (p + k) 0 (cs.drop k) := by
  induction cs generalizing p k with
  | nil => rw [List.drop_nil]; rfl
  | cons c cs ih =>
    cases k with
    | zero => rfl
    | succ k =>
      rw [tagsFrom, ih, List.drop_succ_cons, Nat.add_assoc, Nat.add_comm 1]

theorem tagsFrom_of_none (h : innerAt? opening closing cs = none) :
    tagsFrom opening closing p 0 cs = tagsFrom opening closing (p + 1) 0 (cs.drop 1) := by
  cases cs with
  | nil => rfl
  | cons c cs =>
    rw [tagsFrom]
    simp only [h, List.drop_succ_cons, List.drop_zero]

theorem tagsFrom_of_some (marked : 0 < opening.length + closing.length)
    (h : innerAt? opening closing cs = some inner) :
    tagsFrom opening closing p 0 cs =
      (p, p + (opening.length + inner.length + closing.length), String.ofList inner) ::
        tagsFrom opening closing (p + (opening.length + inner.length + closing.length)) 0
          (cs.drop (opening.length + inner.length + closing.length)) := by
  obtain ⟨size, hsize⟩ := Nat.exists_eq_add_of_le
    (show 1 ≤ opening.length + inner.length + closing.length by omega)
  cases cs with
  | nil =>
    obtain ⟨after, htext, -⟩ := innerAt?_eq_some_iff.1 h
    have hlength := congrArg List.length htext
    simp only [List.length_append, List.length_nil] at hlength
    omega
  | cons c cs =>
    rw [tagsFrom]
    simp only [h]
    rw [tagsFrom_passed, hsize, Nat.add_sub_cancel_left, Nat.add_assoc, Nat.add_comm 1 size,
      List.drop_succ_cons]

/-- A scan may begin at an earlier place where no tag could begin. -/
theorem Scan.back (h : Scan opening closing cs (p + 1) found) (hp : ¬BeginsAt opening closing cs p) :
    Scan opening closing cs p found := by
  have hback : ∀ q, p ≤ q → (p + 1 ≤ q → ¬BeginsAt opening closing cs q) → ¬BeginsAt opening closing cs q := by
    intro q hq hlater
    rcases Nat.eq_or_lt_of_le hq with rfl | hlt
    · exact hp
    · exact hlater hlt
  cases h with
  | done none => exact .done fun q hq => hback q hq (none q)
  | tag le first isTag next =>
    exact .tag (by omega) (fun q hq hlt => hback q hq fun hle => first q hle hlt) isTag next

/-- **The search scans the text.** -/
theorem scan_tagsFrom (marked : 0 < opening.length + closing.length) (cs : List Char) (p : Nat) :
    Scan opening closing cs p (tagsFrom opening closing p 0 (cs.drop p)) := by
  by_cases hp : p < cs.length
  · cases hinner : innerAt? opening closing (cs.drop p) with
    | none =>
      rw [tagsFrom_of_none hinner, List.drop_drop]
      exact (scan_tagsFrom marked cs (p + 1)).back fun h => innerAt?_eq_none_iff.1 hinner (beginsAt_drop.2 h)
    | some inner =>
      rw [tagsFrom_of_some marked hinner, List.drop_drop]
      exact .tag (Nat.le_refl p) (fun q hq hlt => absurd hlt (Nat.not_lt.2 hq)) (isTag_of_innerAt? hinner)
        (scan_tagsFrom marked cs (p + (opening.length + inner.length + closing.length)))
  · rw [List.drop_eq_nil_of_le (Nat.not_lt.1 hp)]
    exact .done fun q hq h => hp (Nat.lt_of_le_of_lt hq (h.lt_length marked))
termination_by cs.length - p
decreasing_by all_goals omega

/-- **There is one scan** of a text from a place on. -/
theorem Scan.unique {found' : List Tag} (h : Scan opening closing cs p found)
    (h' : Scan opening closing cs p found') : found = found' := by
  induction h generalizing found' with
  | done none =>
    cases h' with
    | done => rfl
    | tag le _ isTag _ => exact absurd isTag.beginsAt (none _ le)
  | @tag p t rest le first isTag _ ih =>
    cases h' with
    | done none => exact absurd isTag.beginsAt (none _ le)
    | @tag _ u _ le' first' isTag' next' =>
      have hstart : t.start = u.start := by
        rcases Nat.lt_trichotomy t.start u.start with hlt | heq | hlt
        · exact absurd isTag.beginsAt (first' _ le hlt)
        · exact heq
        · exact absurd isTag'.beginsAt (first _ le' hlt)
      obtain rfl := isTag.unique isTag' hstart
      rw [ih next']

/-! ## What is left between the tags -/

/-- The parts of a text before, between and behind tags. -/
def literals (cs : List Char) (p : Nat) : List Tag → List (List Char)
  | [] => [cs.drop p]
  | t :: rest => (cs.take t.start).drop p :: literals cs t.stop rest

/-- Tags stand one behind the other, from a place on, in a text of a length. -/
def InOrder (len p : Nat) : List Tag → Prop
  | [] => p ≤ len
  | t :: rest => p ≤ t.start ∧ t.start ≤ t.stop ∧ InOrder len t.stop rest

theorem InOrder.le_start (h : InOrder n p found) : ∀ t ∈ found, p ≤ t.start := by
  induction found generalizing p with
  | nil => exact fun t ht => absurd ht List.not_mem_nil
  | cons u rest ih =>
    obtain ⟨hstart, hstop, hrest⟩ := h
    intro t ht
    rcases List.mem_cons.1 ht with rfl | ht
    · exact hstart
    · exact Nat.le_trans hstart (Nat.le_trans hstop (ih hrest t ht))

theorem InOrder.pairwise (h : InOrder n p found) : found.Pairwise fun t u => t.stop ≤ u.start := by
  induction found generalizing p with
  | nil => exact .nil
  | cons t rest ih => exact .cons h.2.2.le_start (ih h.2.2)

/-- What stands in a part of a text stands in the text. -/
theorem standsAt_of_part {literal mark : List Char} (hpart : literal <+: cs.drop p) (h : StandsAt mark literal q) :
    StandsAt mark cs (p + q) :=
  Text.standsAt_drop.1 (h.trans (hpart.drop q))

theorem beginsAt_of_part {literal : List Char} (hpart : literal <+: cs.drop p)
    (h : BeginsAt opening closing literal q) : BeginsAt opening closing cs (p + q) := by
  obtain ⟨ho, r, hr, hc⟩ := h
  exact ⟨standsAt_of_part hpart ho, p + r, by omega, standsAt_of_part hpart hc⟩

namespace Scan

theorem inOrder (marked : 0 < opening.length + closing.length) (h : Scan opening closing cs p found)
    (hp : p ≤ cs.length) : InOrder cs.length p found := by
  induction h with
  | done => exact hp
  | tag le _ isTag _ ih =>
    have hstop := isTag.stop_eq
    exact ⟨le, by omega, ih (isTag.stop_le (Nat.le_of_lt (isTag.beginsAt.lt_length marked)))⟩

theorem isTag (h : Scan opening closing cs p found) : ∀ t ∈ found, IsTag opening closing cs t := by
  induction h with
  | done => exact fun t ht => absurd ht List.not_mem_nil
  | tag _ _ isTag _ ih => exact List.forall_mem_cons.2 ⟨isTag, ih⟩

/-- **No tag is left over** in a part between the tags. -/
theorem literals (marked : 0 < opening.length + closing.length) (h : Scan opening closing cs p found) :
    ∀ literal ∈ Template.literals cs p found, ∀ q, ¬BeginsAt opening closing literal q := by
  induction h with
  | done none =>
    refine List.forall_mem_singleton.2 fun q hq => none _ (Nat.le_add_right _ q) ?_
    exact beginsAt_of_part (List.prefix_refl _) hq
  | @tag p t rest le first _ _ ih =>
    refine List.forall_mem_cons.2 ⟨fun q hq => first (p + q) (Nat.le_add_right _ q) ?_ ?_, ih⟩
    · have hlength := hq.lt_length marked
      rw [List.length_drop, List.length_take] at hlength
      omega
    · exact beginsAt_of_part ((List.take_prefix t.start cs).drop p) hq

end Scan

theorem inOrder_tagsBetween (cs : List Char) (p : Nat) : InOrder (p + cs.length) p (tagsBetween p cs) := by
  induction cs generalizing p with
  | nil => exact ⟨Nat.le_refl p, Nat.le_refl p, Nat.le_refl p⟩
  | cons c cs ih =>
    have hrest := ih (p + 1)
    rw [Nat.add_assoc, Nat.add_comm 1, ← List.length_cons (a := c)] at hrest
    exact ⟨Nat.le_refl p, Nat.le_refl p, Nat.le_refl p, Nat.le_succ p, hrest⟩

/-! ## The tags of a template -/

theorem marked_length (marks : Marks) (marked : marks.opening ≠ "" ∨ marks.closing ≠ "") :
    0 < marks.opening.toList.length + marks.closing.toList.length := by
  rw [Nat.add_pos_iff_pos_or_pos, List.length_pos_iff, List.length_pos_iff]
  exact marked.imp (mt String.toList_eq_nil_iff.1) (mt String.toList_eq_nil_iff.1)

theorem scan_tags (marks : Marks) (template : String) (marked : marks.opening ≠ "" ∨ marks.closing ≠ "") :
    Scan marks.opening.toList marks.closing.toList template.toList 0 (tags marks template) := by
  have hempty : (marks.opening.isEmpty && marks.closing.isEmpty) = false := by
    rw [Bool.and_eq_false_iff, String.isEmpty_eq_false_iff, String.isEmpty_eq_false_iff]
    exact marked
  rw [tags, hempty]
  exact scan_tagsFrom (marked_length marks marked) template.toList 0

/-- The tags of a template stand one behind the other, whatever the marks. -/
theorem inOrder_tags (marks : Marks) (template : String) :
    InOrder template.toList.length 0 (tags marks template) := by
  by_cases marked : marks.opening ≠ "" ∨ marks.closing ≠ ""
  · exact (scan_tags marks template marked).inOrder (marked_length marks marked) (Nat.zero_le _)
  · rw [not_or, not_not, not_not] at marked
    have hbetween := inOrder_tagsBetween template.toList 0
    rw [Nat.zero_add] at hbetween
    rw [tags, marked.1, marked.2]
    exact hbetween

/-- **Exactly the tags are found.** Unless both marks are empty, the tags of a template are the one scan of
it: the first place at which the opening mark stands and a closing mark stands at its end or later, then the
first such closing mark, and on from its end. So no two tags overlap, each is an opening mark, its inner text
and a closing mark, no closing mark ends earlier in it, and what is left between them holds no tag. -/
theorem tags_exact (marks : Marks) (template : String) (marked : marks.opening ≠ "" ∨ marks.closing ≠ "") :
    let opening := marks.opening.toList
    let closing := marks.closing.toList
    let cs := template.toList
    let found := tags marks template
    (∀ spans, Scan opening closing cs 0 spans ↔ spans = found) ∧
    found.Pairwise (fun t u => t.stop ≤ u.start) ∧
    (∀ t ∈ found, t.start < t.stop ∧ t.stop ≤ cs.length ∧
      Tag.text cs t = opening ++ t.inner.toList ++ closing ∧
      ∀ k, t.start + opening.length ≤ k → k + closing.length < t.stop → ¬StandsAt closing cs k) ∧
    ∀ literal ∈ literals cs 0 found, ∀ q, ¬BeginsAt opening closing literal q := by
  intro opening closing cs found
  have hlength : 0 < opening.length + closing.length := marked_length marks marked
  have hscan := scan_tags marks template marked
  have horder := inOrder_tags marks template
  refine ⟨fun spans => ⟨fun h => h.unique hscan, fun h => h ▸ hscan⟩, horder.pairwise, fun t ht => ?_,
    hscan.literals hlength⟩
  have htag := hscan.isTag t ht
  have hstop : t.stop = t.start + (opening.length + t.inner.length + closing.length) := htag.stop_eq
  refine ⟨by omega, htag.stop_le (Nat.le_of_lt (htag.beginsAt.lt_length hlength)), htag.text_eq,
    fun k hopening hclosing hstands => ?_⟩
  -- A closing mark that ends earlier in the tag also starts earlier, inside the inner text.
  refine htag.first (k - (t.start + opening.length)) (by omega) ?_
  rwa [Nat.add_sub_cancel' hopening]

/-- Between equal marks a tag ends as early as it can, and a mark that is never closed begins no tag. -/
theorem tags_percent :
    tags ⟨"%%", "%%"⟩ "%%%1%%%2%%" = [(0, 6, "%1")] ∧
      Scan "%%".toList "%%".toList "%%%1%%%2%%".toList 0 [(0, 6, "%1")] ∧
      ∀ q, ¬BeginsAt "%%".toList "%%".toList "%2%%".toList q := by
  have hfound : tags ⟨"%%", "%%"⟩ "%%%1%%%2%%" = [(0, 6, "%1")] := by decide
  obtain ⟨hscan, -, -, hliterals⟩ := tags_exact ⟨"%%", "%%"⟩ "%%%1%%%2%%" (.inl (by decide))
  rw [hfound] at hscan hliterals
  exact ⟨hfound, (hscan _).2 rfl, hliterals _ (List.mem_cons_of_mem _ (List.mem_singleton_self _))⟩

end Template
end Walkthrough
