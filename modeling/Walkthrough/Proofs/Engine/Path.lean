/-
# Paths as links

An engine does not keep its path as a list but as links, from each step to the one it was entered from.
`Represents` says when a position and links stand for a list of steps: no step occurs twice, the last one
is the position, and a step has a link exactly to the one right before it.

| on the list | on the links |
| --- | --- |
| `P ++ [t]` | `insert t c`, where `c` is the last step of `P` |
| `Q`, where `P = Q ++ B` | the links of `B` are erased |

Following the links back from the position gives the list again (`Represents.path_eq`), so it is the only
one that they stand for.
-/

import Mathlib.Data.List.Induction
import Mathlib.Data.List.Perm.Subperm
import Walkthrough.Engine.Basic
import Walkthrough.Proofs.OrderedMap

namespace Walkthrough
namespace Engine

/-- A position and links that stand for a path. -/
structure Represents (current : Option Int) (links : OrderedMap Int Int) (P : List Int) : Prop where
  /-- No step occurs twice. -/
  nodup : P.Nodup
  /-- The path ends at the position. -/
  last : P.getLast? = current
  /-- Each step but the first has a link to the step before it, and there are no other links. -/
  links : ∀ a b, links.get? b = some a ↔ [a, b] <:+: P

/-! ## Neighbours in a list -/

theorem pair_infix_concat {a b t : Int} {P : List Int} :
    [a, b] <:+: P ++ [t] ↔ [a, b] <:+: P ∨ P.getLast? = some a ∧ b = t := by
  rw [List.infix_concat_iff, List.suffix_concat_iff, List.getLast?_eq_some_iff]
  constructor
  · rintro ((h | ⟨s, hs, Q, rfl⟩) | h)
    · cases h
    · have hs : [a] ++ [b] = s ++ [t] := hs
      obtain ⟨rfl, hb⟩ := List.append_inj' hs rfl
      exact .inr ⟨⟨Q, rfl⟩, List.singleton_inj.1 hb⟩
    · exact .inl h
  · rintro (h | ⟨⟨Q, rfl⟩, rfl⟩)
    · exact .inr h
    · exact .inl (.inr ⟨[a], rfl, Q, rfl⟩)

/-- Steps further on do not matter for what stands before a step. -/
theorem pair_infix_append {a b : Int} {Q B : List Int} (h : b ∉ B) :
    [a, b] <:+: Q ++ B ↔ [a, b] <:+: Q := by
  induction B using List.reverseRecOn with
  | nil => rw [List.append_nil]
  | append_singleton B x ih =>
    rw [List.mem_append, List.mem_singleton, not_or] at h
    rw [← List.append_assoc, pair_infix_concat, ih h.1]
    exact or_iff_left fun hx => h.2 hx.2

theorem mem_of_pair {a b : Int} {P : List Int} (h : [a, b] <:+: P) : a ∈ P ∧ b ∈ P :=
  ⟨h.subset List.mem_cons_self, h.subset (List.mem_cons_of_mem _ List.mem_cons_self)⟩

namespace Represents

variable {current : Option Int} {links : OrderedMap Int Int} {P : List Int}

/-- Nothing was entered yet. -/
theorem nil : Represents none .empty [] :=
  ⟨List.nodup_nil, rfl, fun a b => by simp⟩

/-- **Starting.** The first step of a path has no link. -/
theorem first (h : Represents none links []) (t : Int) : Represents (some t) links [t] := by
  refine ⟨List.nodup_cons.2 ⟨List.not_mem_nil, List.nodup_nil⟩, rfl, fun a b => ?_⟩
  have hpair : ¬[a, b] <:+: [t] := fun hi => by simpa using hi.length_le
  rw [h.links]
  exact iff_of_false (fun hi => by simpa using hi.length_le) hpair

/-- **Going on.** A step that is not on the path is put behind the last one. -/
theorem push (h : Represents current links P) {c t : Int} (hc : current = some c) (ht : t ∉ P) :
    Represents (some t) (links.insert t c) (P ++ [t]) := by
  refine ⟨?_, List.getLast?_concat, fun a b => ?_⟩
  · rw [List.nodup_append]
    exact ⟨h.nodup, List.nodup_cons.2 ⟨List.not_mem_nil, List.nodup_nil⟩, fun x hx y hy hxy =>
      ht (List.mem_singleton.1 hy ▸ hxy ▸ hx)⟩
  · rw [OrderedMap.get?_insert, pair_infix_concat, h.last, hc, ← h.links]
    by_cases hb : b = t
    · subst hb
      have hl : ∀ x, links.get? b ≠ some x := fun x hx =>
        ht (mem_of_pair ((h.links x b).1 hx)).2
      simp [hl]
    · simp [hb]

/-- **Going back.** Dropping the end of a path erases the links of the steps that are dropped. -/
theorem cut {Q B : List Int} (h : Represents current links (Q ++ B)) :
    Represents Q.getLast? (B.foldl (fun links id => links.erase id) links) Q := by
  obtain ⟨hQ, -, hd⟩ := List.nodup_append.1 h.nodup
  refine ⟨hQ, rfl, fun a b => ?_⟩
  rw [OrderedMap.get?_foldl_erase]
  by_cases hb : b ∈ B
  · simp only [hb, if_true]
    exact ⟨fun ha => absurd ha.symm (Option.some_ne_none a),
      fun hi => absurd rfl (hd b (mem_of_pair hi).2 b hb)⟩
  · rw [if_neg hb, h.links, pair_infix_append hb]

/-- The link of a step leads to the step before it. -/
theorem get?_eq {Q M : List Int} {x : Int} (h : Represents current links (Q ++ x :: M)) :
    links.get? x = Q.getLast? := by
  obtain ⟨-, hM, hd⟩ := List.nodup_append.1 h.nodup
  have hxQ : x ∉ Q := fun hx => hd x hx x List.mem_cons_self rfl
  apply Option.ext
  intro a
  rw [h.links, List.append_cons, pair_infix_append (List.nodup_cons.1 hM).1, pair_infix_concat]
  constructor
  · rintro (hi | hi)
    · exact absurd (mem_of_pair hi).2 hxQ
    · exact hi.1
  · exact fun ha => .inr ⟨ha, rfl⟩

/-! ## Following the links -/

/-- There is a link for each step but the first. -/
theorem length_le (h : Represents current links P) : P.length ≤ links.size + 1 := by
  cases P with
  | nil => exact Nat.zero_le _
  | cons x rest =>
    have hsub : rest ⊆ links.keys := by
      intro y hy
      obtain ⟨Q, M, rfl⟩ := List.append_of_mem hy
      rw [OrderedMap.mem_keys_iff, get?_eq (Q := x :: Q) h]
      exact Option.isSome_iff_exists.1 (by simp)
    have hlen := (List.subperm_of_subset (List.nodup_cons.1 h.nodup).2 hsub).length_le
    rw [OrderedMap.keys, List.length_map] at hlen
    exact Nat.succ_le_succ hlen

/-- Going back from the end of the first part of a path, with the rest met already. -/
theorem walkBack_eq (Q : List Int) :
    ∀ (fuel : Nat) (M : List Int), Represents current links (Q ++ M) → Q.length ≤ fuel →
      walkBack links fuel Q.getLast? M = Q ++ M := by
  induction Q using List.reverseRecOn with
  | nil =>
    intro fuel M _ _
    cases fuel <;> rfl
  | append_singleton Q x ih =>
    intro fuel M h hfuel
    rw [List.length_append] at hfuel
    cases fuel with
    | zero => cases hfuel
    | succ fuel =>
      rw [List.append_assoc, List.singleton_append] at h
      have hx : M.contains x = false := by
        have hxM := (List.nodup_cons.1 (List.nodup_append.1 h.nodup).2.1).1
        simpa using hxM
      rw [List.getLast?_concat, walkBack, hx, h.get?_eq]
      simpa using ih fuel (x :: M) h (Nat.le_of_succ_le_succ hfuel)

/-- **The path is what the links lead back along.** -/
theorem path_eq (h : Represents current links P) : walkBack links (links.size + 1) current [] = P := by
  have hp := walkBack_eq P (links.size + 1) [] (by rwa [List.append_nil]) h.length_le
  rwa [h.last, List.append_nil] at hp

/-- Links stand for one path only. -/
theorem unique {Q : List Int} (h : Represents current links P) (hQ : Represents current links Q) :
    Q = P :=
  hQ.path_eq.symm.trans h.path_eq

end Represents
end Engine
end Walkthrough
