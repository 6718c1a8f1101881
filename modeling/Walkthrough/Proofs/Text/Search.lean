/-
# Where a mark stands

A mark stands at a place of a text if the text goes on with it there (`StandsAt`). Splitting a text at a
mark splits it at the first place where the mark stands (`splitAt?_eq_some_iff`), and fails only if there is
no such place (`splitAt?_eq_none_iff`).
-/

import Walkthrough.Text.Search

namespace Walkthrough
namespace Text

variable {mark cs before after rest : List Char} {c : Char} {p : Nat}

/-- A mark stands at a place of a text. -/
def StandsAt (mark cs : List Char) (p : Nat) : Prop := mark <+: cs.drop p

theorem standsAt_zero : StandsAt mark cs 0 ↔ mark <+: cs := Iff.rfl

theorem standsAt_drop {k : Nat} : StandsAt mark (cs.drop k) p ↔ StandsAt mark cs (k + p) := by
  rw [StandsAt, StandsAt, List.drop_drop]

/-- A mark lies within the text. -/
theorem StandsAt.add_length_le (h : StandsAt mark cs p) (nonempty : 0 < mark.length) :
    p + mark.length ≤ cs.length := by
  have hlength := h.length_le
  rw [List.length_drop] at hlength
  omega

theorem afterMark?_eq_some_iff : afterMark? mark cs = some rest ↔ cs = mark ++ rest := by
  induction mark generalizing cs with
  | nil =>
    rw [afterMark?, Option.some.injEq]
    rfl
  | cons m mark ih =>
    cases cs with
    | nil => simp [afterMark?]
    | cons c cs =>
      rw [afterMark?, List.cons_append, List.cons.injEq]
      split
      · next h => rw [ih, and_iff_right h.symm]
      · next h => exact ⟨fun hrest => (nomatch hrest), fun hrest => absurd hrest.1.symm h⟩

theorem afterMark?_eq_none_iff : afterMark? mark cs = none ↔ ¬mark <+: cs := by
  rw [Option.eq_none_iff_forall_ne_some]
  constructor
  · rintro h ⟨rest, rfl⟩
    exact h rest (afterMark?_eq_some_iff.2 rfl)
  · rintro h rest hrest
    exact h ⟨rest, (afterMark?_eq_some_iff.1 hrest).symm⟩

/-- **Splitting at a mark** is splitting at the first place where it stands. -/
theorem splitAt?_eq_some_iff :
    splitAt? mark cs = some (before, after) ↔
      cs = before ++ (mark ++ after) ∧ ∀ k < before.length, ¬StandsAt mark cs k := by
  induction cs generalizing before with
  | nil =>
    rw [splitAt?, List.nil_eq, List.append_eq_nil_iff, List.append_eq_nil_iff]
    cases mark with
    | nil =>
      refine ⟨fun h => ?_, fun ⟨⟨hbefore, _, hafter⟩, _⟩ => by rw [hbefore, hafter]; rfl⟩
      cases h
      exact ⟨⟨rfl, rfl, rfl⟩, fun k hk => absurd hk (Nat.not_lt_zero k)⟩
    | cons m mark => exact ⟨fun h => (nomatch h), fun h => nomatch h.1.2.1⟩
  | cons c cs ih =>
    rw [splitAt?]
    cases hmark : afterMark? mark (c :: cs) with
    | some rest =>
      rw [afterMark?_eq_some_iff] at hmark
      constructor
      · intro h
        cases h
        exact ⟨hmark, fun k hk => absurd hk (Nat.not_lt_zero k)⟩
      · rintro ⟨hsplit, hfirst⟩
        cases before with
        | cons b before => exact absurd ⟨rest, hmark.symm⟩ (hfirst 0 (Nat.zero_lt_succ _))
        | nil => rw [List.append_cancel_left (hmark.symm.trans hsplit)]
    | none =>
      rw [afterMark?_eq_none_iff] at hmark
      cases before with
      | nil =>
        refine ⟨fun h => ?_, fun h => absurd ⟨after, h.1.symm⟩ hmark⟩
        obtain ⟨x, -, hx⟩ := Option.map_eq_some_iff.1 h
        cases hx
      | cons b before =>
        have hmap : (splitAt? mark cs).map (fun x => (c :: x.1, x.2)) = some (b :: before, after) ↔
            c = b ∧ splitAt? mark cs = some (before, after) := by
          rw [Option.map_eq_some_iff]
          constructor
          · rintro ⟨x, hx, heq⟩
            cases heq
            exact ⟨rfl, hx⟩
          · rintro ⟨rfl, hx⟩
            exact ⟨_, hx, rfl⟩
        refine hmap.trans ?_
        rw [ih, List.cons_append, List.cons.injEq, and_assoc, and_congr_right_iff]
        intro _
        rw [and_congr_right_iff]
        intro _
        constructor
        · intro h k hk
          cases k with
          | zero => exact hmark
          | succ k => exact h k (Nat.lt_of_succ_lt_succ hk)
        · exact fun h k hk => h (k + 1) (Nat.succ_lt_succ hk)

theorem splitAt?_eq_none_iff : splitAt? mark cs = none ↔ ∀ k, ¬StandsAt mark cs k := by
  induction cs with
  | nil =>
    rw [splitAt?]
    cases mark with
    | nil => exact ⟨fun h => (nomatch h), fun h => absurd List.nil_prefix (h 0)⟩
    | cons m mark =>
      refine ⟨fun _ k hk => ?_, fun _ => rfl⟩
      rw [StandsAt, List.drop_nil] at hk
      exact absurd (List.prefix_nil.1 hk) (List.cons_ne_nil m mark)
  | cons c cs ih =>
    rw [splitAt?]
    cases hmark : afterMark? mark (c :: cs) with
    | some rest =>
      rw [afterMark?_eq_some_iff] at hmark
      exact ⟨fun h => (nomatch h), fun h => absurd ⟨rest, hmark.symm⟩ (h 0)⟩
    | none =>
      rw [afterMark?_eq_none_iff] at hmark
      rw [Option.map_eq_none_iff, ih]
      constructor
      · intro h k
        cases k with
        | zero => exact hmark
        | succ k => exact h k
      · exact fun h k => h (k + 1)

end Text
end Walkthrough
