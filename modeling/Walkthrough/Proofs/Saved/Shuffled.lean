/-
# Saved histories in any order

A text that was edited by hand may have the records of its history in any order. Each record says which step is
before its own, so that nothing is lost: the links are those of the same path, only in another order
(`exists_links_of_perm`), and there is one row at most in which links can be put (`Ordered.unique`).
-/

import Mathlib.Data.List.Perm.Basic
import Walkthrough.Proofs.Saved.RoundTrip

namespace Walkthrough
namespace Saved

variable {stepTags propertyTags : TagMap} {s : Snapshot}

/-- The records of links in another order are those of links in another order. -/
theorem exists_links_of_perm {es : List (Int × Option Int)} {records : List Value}
    (h : records.Perm (es.map fun l => record (linkFields stepTags l))) :
    ∃ es' : List (Int × Option Int), es'.Perm es ∧
      records = es'.map fun l => record (linkFields stepTags l) := by
  have hcomp := congrFun (congrFun (List.eq_map_comp_perm fun l => record (linkFields stepTags l)) records) es
  obtain ⟨es', hrecords, hes⟩ := hcomp.mpr h
  exact ⟨es', hes, hrecords⟩

/-- The links of a history in another order are read as the same history. -/
theorem read_of_perm (bs : stepTags.Built) (bp : propertyTags.Built) (h : Saveable stepTags propertyTags s)
    {es : List (Int × Option Int)} (hes : es.Perm (linksOf none s.history)) :
    ∃ text, Json.write 0 (record (linkedFields stepTags propertyTags s es)) = .ok text ∧
      read stepTags propertyTags text = .ok (plain s) := by
  obtain ⟨text, hwrite, hread⟩ := h.storable.read_linkedFields es
  refine ⟨text, hwrite, (hread stepTags propertyTags).trans ?_⟩
  rw [snapshot_linkedParts (h.storable.renumbers bs bp) hes, renumber_self]

/-- **A history is rebuilt exactly from its links.** Links in any order give a history if and only if they can be
put in a row, and then that row, of which there is one only; else they are refused. The steps behind a root are
followed to the end, so that a bound on their number changes nothing. Hence a snapshot that was saved is read
back with the records of its history in any order, and its history is what it was. -/
theorem orderedHistory_exact :
    (∀ links path, orderedHistory links = .ok path ↔ Ordered links path) ∧
    (∀ links path path', Ordered links path → Ordered links path' → path = path') ∧
    (∀ links, (¬∃ path, Ordered links path) → ∃ err, orderedHistory links = .error err) ∧
    (∀ (links : Links) (root : Int) (following : OrderedMap Int Int), links.contains root = true →
      followers root .empty links.entries = .ok following → ∀ fuel, links.size ≤ fuel →
        chase following fuel root = chase following links.size root) ∧
    ∀ (stepTags propertyTags : TagMap) (s : Snapshot), stepTags.Built → propertyTags.Built →
      Saveable stepTags propertyTags s → ∃ current values history choices,
        linkRecords stepTags none s.history = .ok history ∧
        document stepTags propertyTags s = .ok (record [("step_id", current), ("variables", values),
          ("history", .list history), ("choises", choices)]) ∧
        ∀ records, records.Perm history → ∃ text,
          Json.write 0 (record [("step_id", current), ("variables", values), ("history", .list records),
            ("choises", choices)]) = .ok text ∧
          read stepTags propertyTags text = .ok (plain s) := by
  refine ⟨fun _ _ => orderedHistory_eq_ok_iff, fun _ _ _ => Ordered.unique, fun links hnone => ?_,
    fun _ _ _ hroot hf _ hfuel => chase_enough hroot hf hfuel, fun stepTags propertyTags s bs bp h => ?_⟩
  · cases horder : orderedHistory links with
    | error err => exact ⟨err, rfl⟩
    | ok path => exact absurd ⟨path, orderedHistory_eq_ok_iff.1 horder⟩ hnone
  · refine ⟨_, _, _, _, linkRecords_eq bs h.history fun _ hnone => (nomatch hnone), document_eq bs bp h,
      fun records hrecords => ?_⟩
    obtain ⟨es, hes, rfl⟩ := exists_links_of_perm hrecords
    exact read_of_perm bs bp h hes

/-- A history of three steps is read back from its records in the opposite order. -/
theorem orderedHistory_backwards :
    let s : Snapshot := { current := some 3, history := [4, 1, 3] }
    Saveable .empty .empty s ∧ ∃ current values choices text,
      Json.write 0 (record [("step_id", current), ("variables", values),
        ("history", .list [record [("step_id", .text "3"), ("prev_step_id", .text "1")],
          record [("step_id", .text "1"), ("prev_step_id", .text "4")],
          record [("step_id", .text "4"), ("prev_step_id", .text "")]]), ("choises", choices)]) = .ok text ∧
      read .empty .empty text = .ok s := by
  intro s
  have hshort : ∀ step ∈ [4, 1, 3], 0 < step ∧ Value.isShort step = true := by decide +kernel
  have hcode : ∀ step ∈ [4, 1, 3], HasCode .empty step := fun step hstep => by
    rw [HasCode, if_pos (show TagMap.empty.isEmpty = true from rfl)]
    exact hshort step hstep
  have hsave : Saveable .empty .empty s :=
    ⟨fun step hstep => hcode step (Option.some.inj hstep ▸ by decide), by decide, hcode,
      fun _ hx => absurd hx List.not_mem_nil, fun _ hx => absurd hx List.not_mem_nil⟩
  obtain ⟨-, -, -, -, hread⟩ := orderedHistory_exact
  obtain ⟨current, values, history, choices, hhistory, -, hrecords⟩ :=
    hread .empty .empty s .empty .empty hsave
  refine ⟨hsave, current, values, choices, hrecords _ ?_⟩
  have hlinks : linkRecords .empty none s.history = _ :=
    linkRecords_eq .empty hsave.history fun _ hnone => nomatch hnone
  obtain rfl := Except.ok.inj (hhistory.symm.trans hlinks)
  exact List.reverse_perm [record (linkFields .empty (4, none)), record (linkFields .empty (1, some 4)),
    record (linkFields .empty (3, some 1))]

end Saved
end Walkthrough
