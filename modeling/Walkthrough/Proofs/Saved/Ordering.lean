/-
# Links that can be put in a row

Links say of each step which step is before it, in any order. They can be put in a row (`Ordered`) if all steps
stand behind one another, each linked to the one before it, from a step that is linked to nothing or to a step
without a link. Links in general need not be like that:

| links | found as |
| --- | --- |
| two rows side by side, or none that begins | not exactly one root |
| two steps linked to one | a branch |
| a row and a circle beside it | a row that is too short |

`orderedHistory` gives the row exactly if there is one (`orderedHistory_eq_ok_iff`). With one root and no branch
the links lead on from the root by a function that takes no two steps to one and none to the root. So the steps
behind the root never repeat (`nodup_of_isChain`), there are no more of them than links, and the bound on how
far they are followed is never reached (`chase_enough`). Conversely every row is followed to its end, whatever
order the links have (`chase_eq_drop`).
-/

import Mathlib.Data.List.Nodup
import Mathlib.Data.List.Perm.Subperm
import Walkthrough.Proofs.OrderedMap
import Walkthrough.Saved.History

namespace Walkthrough
namespace Saved

variable {links : Links} {following : OrderedMap Int Int} {path : List Int} {root a b : Int}

/-- **Links in a row**: a list of all steps, each but the first linked to the one before it. The first is linked
to nothing, or to a step without a link. -/
structure Ordered (links : Links) (path : List Int) : Prop where
  keys : path.Perm links.keys
  root : ∀ step, path.head? = some step →
    ∀ previous, links.get? step = some (some previous) → links.contains previous = false
  linked : path.IsChain fun a b => links.get? b = some (some a)

/-! ## Chains -/

/-- **A chain does not repeat** if nothing leads to its first member and no two members lead to one. -/
theorem nodup_of_isChain {R : Int → Int → Prop} (chain : path.IsChain R)
    (first : ∀ x, path.head? = some x → ∀ y, ¬R y x) (unique : ∀ x y z, R x z → R y z → x = y) :
    path.Nodup := by
  have hne : ∀ i j (_ : i < j) (_ : j < path.length), path[i] ≠ path[j] := by
    intro i
    induction i with
    | zero =>
      intro j hij hj heq
      obtain ⟨k, rfl⟩ := Nat.exists_eq_succ_of_ne_zero (Nat.ne_zero_of_lt hij)
      have hhead : path.head? = some path[k + 1] := by
        rw [← heq, List.head?_eq_getElem?, List.getElem?_eq_getElem]
      exact first _ hhead _ (chain.getElem k hj)
    | succ i ih =>
      intro j hij hj heq
      obtain ⟨k, rfl⟩ := Nat.exists_eq_succ_of_ne_zero (Nat.ne_zero_of_lt hij)
      have hi := chain.getElem i (Nat.lt_trans hij hj)
      rw [heq] at hi
      exact ih k (Nat.lt_of_succ_lt_succ hij) (Nat.lt_of_succ_lt hj) (unique _ _ _ hi (chain.getElem k hj))
  exact List.pairwise_iff_getElem.2 fun i j _ hj hij => hne i j hij hj

/-- Every member of a chain but the first stands right behind another one. -/
theorem exists_before {R : Int → Int → Prop} (chain : path.IsChain R) (hb : b ∈ path)
    (hfirst : path.head? ≠ some b) : ∃ i a, path[i]? = some a ∧ path[i + 1]? = some b ∧ R a b := by
  obtain ⟨j, hj, rfl⟩ := List.getElem_of_mem hb
  cases j with
  | zero => exact absurd (by rw [List.head?_eq_getElem?, List.getElem?_eq_getElem]) hfirst
  | succ i =>
    exact ⟨i, path[i], List.getElem?_eq_getElem _, List.getElem?_eq_getElem hj, chain.getElem i hj⟩

/-! ## Roots -/

theorem mem_roots_iff : root ∈ (links.entries.filter (isRoot links)).map Prod.fst ↔
    links.contains root = true ∧
      ∀ previous, links.get? root = some (some previous) → links.contains previous = false := by
  rw [OrderedMap.contains_iff, List.mem_map]
  constructor
  · rintro ⟨⟨step, link⟩, hmem, rfl⟩
    obtain ⟨hmem, hroot⟩ := List.mem_filter.1 hmem
    have hget : links.get? step = some link := OrderedMap.get?_eq_some_iff.2 hmem
    refine ⟨⟨link, hget⟩, fun previous hp => ?_⟩
    obtain rfl : link = some previous := Option.some.inj (hget.symm.trans hp)
    simpa [isRoot] using hroot
  · rintro ⟨⟨link, hget⟩, hroot⟩
    refine ⟨(root, link), List.mem_filter.2 ⟨OrderedMap.get?_eq_some_iff.1 hget, ?_⟩, rfl⟩
    cases link with
    | none => rfl
    | some previous => simpa [isRoot] using hroot previous hget

/-! ## The steps that follow -/

/-- What was found to follow: the link of every step but the root, turned round. -/
theorem followers_ok {es : List (Int × Option Int)} :
    ∀ {following out : OrderedMap Int Int}, followers root following es = .ok out → ∀ a b,
      out.get? a = some b ↔ following.get? a = some b ∨ (b, some a) ∈ es ∧ b ≠ root := by
  induction es with
  | nil =>
    intro following out h a b
    cases h
    simp
  | cons link rest ih =>
    obtain ⟨step, previous⟩ := link
    intro following out h a b
    unfold followers at h
    cases previous with
    | none =>
      rw [ih h]
      simp
    | some previous =>
      dsimp only at h
      split at h
      · next hroot =>
        rw [ih h]
        simp only [List.mem_cons, Prod.mk.injEq, Option.some.injEq]
        grind
      · next hroot =>
        split at h
        · cases h
        · next hfree =>
          have hfree : following.get? previous = none := by
            simpa [OrderedMap.contains_eq] using hfree
          rw [ih h, OrderedMap.get?_insert]
          simp only [List.mem_cons, Prod.mk.injEq, Option.some.injEq]
          grind

/-- Where it breaks off there is a branch: another step follows the same step. -/
theorem followers_error {es : List (Int × Option Int)} (nodup : (es.map Prod.fst).Nodup) :
    ∀ {following : OrderedMap Int Int} {err : ScriptError}, followers root following es = .error err →
      ∃ a b, (b, some a) ∈ es ∧ b ≠ root ∧
        (following.contains a = true ∨ ∃ c, (c, some a) ∈ es ∧ c ≠ root ∧ c ≠ b) := by
  induction es with
  | nil =>
    intro following err h
    cases h
  | cons link rest ih =>
    obtain ⟨step, previous⟩ := link
    intro following err h
    obtain ⟨hstep, hrest⟩ := List.nodup_cons.1 nodup
    -- A branch among the rest is one here, and does not end at this step, which has one link only.
    have later {following : OrderedMap Int Int} (h : followers root following rest = .error err) :
        ∃ a b, (b, some a) ∈ (step, previous) :: rest ∧ b ≠ root ∧ b ≠ step ∧
          (following.contains a = true ∨
            ∃ c, (c, some a) ∈ (step, previous) :: rest ∧ c ≠ root ∧ c ≠ b) := by
      obtain ⟨a, b, hb, hroot, hother⟩ := ih hrest h
      have hne : b ≠ step := fun heq => hstep (heq ▸ List.mem_map.2 ⟨(b, some a), hb, rfl⟩)
      exact ⟨a, b, List.mem_cons_of_mem _ hb, hroot, hne,
        hother.imp_right fun ⟨c, hc, hcroot, hcb⟩ => ⟨c, List.mem_cons_of_mem _ hc, hcroot, hcb⟩⟩
    unfold followers at h
    cases previous with
    | none =>
      obtain ⟨a, b, hb, hbroot, -, hother⟩ := later h
      exact ⟨a, b, hb, hbroot, hother⟩
    | some previous =>
      dsimp only at h
      split at h
      · obtain ⟨a, b, hb, hbroot, -, hother⟩ := later h
        exact ⟨a, b, hb, hbroot, hother⟩
      · next hroot =>
        split at h
        · next htaken => exact ⟨previous, step, List.mem_cons_self, hroot, .inl htaken⟩
        · obtain ⟨a, b, hb, hbroot, hne, hother⟩ := later h
          refine ⟨a, b, hb, hbroot, ?_⟩
          -- The step that takes the place may be this one.
          rcases hother with hother | hother
          · rw [OrderedMap.contains_eq, OrderedMap.get?_insert] at hother
            split at hother
            · next heq => exact .inr ⟨step, heq ▸ List.mem_cons_self, hroot, hne.symm⟩
            · exact .inl (by rwa [OrderedMap.contains_eq])
          · exact .inr hother

/-- The links that lead on from a root, as found. -/
theorem following_iff (h : followers root .empty links.entries = .ok following) :
    following.get? a = some b ↔ links.get? b = some (some a) ∧ b ≠ root := by
  rw [followers_ok h, OrderedMap.get?_empty, OrderedMap.get?_eq_some_iff (m := links)]
  simp

/-! ## Following them -/

theorem chase_cons (following : OrderedMap Int Int) (fuel : Nat) (step : Int) :
    ∃ rest, chase following fuel step = step :: rest := by
  cases fuel with
  | zero => exact ⟨[], rfl⟩
  | succ fuel =>
    unfold chase
    split
    · exact ⟨_, rfl⟩
    · exact ⟨[], rfl⟩

theorem isChain_chase (following : OrderedMap Int Int) (fuel : Nat) (step : Int) :
    (chase following fuel step).IsChain fun a b => following.get? a = some b := by
  induction fuel generalizing step with
  | zero => exact .singleton step
  | succ fuel ih =>
    unfold chase
    split
    · next next hnext =>
      obtain ⟨rest, hrest⟩ := chase_cons following fuel next
      have ih := ih next
      rw [hrest] at ih ⊢
      exact .cons_cons hnext ih
    · exact .singleton step

/-- **The bound is not reached** if fewer steps were followed. -/
theorem chase_stable {fuel more : Nat} {step : Int} (h : (chase following fuel step).length ≤ fuel)
    (hmore : fuel ≤ more) : chase following more step = chase following fuel step := by
  induction fuel generalizing more step with
  | zero =>
    obtain ⟨rest, hrest⟩ := chase_cons following 0 step
    rw [hrest] at h
    cases h
  | succ fuel ih =>
    obtain ⟨more, rfl⟩ : ∃ k, more = k + 1 := ⟨more - 1, by omega⟩
    unfold chase at h ⊢
    split at h
    · next next hnext =>
      rw [ih (Nat.le_of_succ_le_succ h) (Nat.le_of_succ_le_succ hmore)]
    · rfl

/-- **The steps behind a root never repeat**, and all of them have links. -/
theorem chase_nodup (hroot : links.contains root = true)
    (h : followers root .empty links.entries = .ok following) (fuel : Nat) :
    (chase following fuel root).Nodup ∧ chase following fuel root ⊆ links.keys := by
  obtain ⟨rest, hrest⟩ := chase_cons following fuel root
  have hchain := isChain_chase following fuel root
  have hhead : (chase following fuel root).head? = some root := by rw [hrest]; rfl
  refine ⟨nodup_of_isChain hchain (fun x hx y hy => ?_) fun x y z hx hy => ?_, fun b hb => ?_⟩
  · rw [hhead] at hx
    exact ((following_iff h).1 hy).2 (Option.some.inj hx).symm
  · have hz := ((following_iff h).1 hx).1.symm.trans ((following_iff h).1 hy).1
    exact Option.some.inj (Option.some.inj hz)
  · by_cases hfirst : (chase following fuel root).head? = some b
    · obtain rfl : root = b := Option.some.inj (hhead.symm.trans hfirst)
      exact OrderedMap.mem_keys_iff.2 (OrderedMap.contains_iff.1 hroot)
    · obtain ⟨-, a, -, -, hab⟩ := exists_before hchain hb hfirst
      exact OrderedMap.mem_keys_iff.2 ⟨_, ((following_iff h).1 hab).1⟩

/-- **As many steps as there are links** are enough: all that follow are found, however far one goes. -/
theorem chase_enough (hroot : links.contains root = true)
    (h : followers root .empty links.entries = .ok following) {fuel : Nat} (hfuel : links.size ≤ fuel) :
    chase following fuel root = chase following links.size root := by
  obtain ⟨hnodup, hsub⟩ := chase_nodup hroot h links.size
  have hlength := (List.subperm_of_subset hnodup hsub).length_le
  rw [OrderedMap.keys, List.length_map] at hlength
  exact chase_stable hlength hfuel

/-- **A row is followed to its end** from each of its steps, if each step is followed by its neighbour. -/
theorem chase_eq_drop (nodup : path.Nodup)
    (h : ∀ a b, following.get? a = some b ↔ ∃ i, path[i]? = some a ∧ path[i + 1]? = some b) :
    ∀ (fuel i : Nat) (hi : i < path.length), path.length ≤ i + 1 + fuel →
      chase following fuel path[i] = path.drop i := by
  intro fuel
  induction fuel with
  | zero =>
    intro i hi hfuel
    rw [List.drop_eq_getElem_cons hi, List.drop_eq_nil_of_le hfuel]
    rfl
  | succ fuel ih =>
    intro i hi hfuel
    rw [List.drop_eq_getElem_cons hi]
    have hget : path[i]? = some path[i] := List.getElem?_eq_getElem hi
    by_cases hnext : i + 1 < path.length
    · have hfollows : following.get? path[i] = some path[i + 1] :=
        (h _ _).2 ⟨i, hget, List.getElem?_eq_getElem hnext⟩
      rw [chase, hfollows]
      exact congrArg (path[i] :: ·) (ih (i + 1) hnext (by omega))
    · have hlast : following.get? path[i] = none := by
        refine Option.eq_none_iff_forall_ne_some.2 fun b hb => ?_
        obtain ⟨j, hj, hjb⟩ := (h _ _).1 hb
        obtain rfl : j = i := (List.getElem?_inj (List.getElem?_eq_some_iff.1 hj).1 nodup).1 (hj.trans hget.symm)
        exact hnext (List.getElem?_eq_some_iff.1 hjb).1
      rw [chase, hlast, List.drop_eq_nil_of_le (Nat.le_of_not_lt hnext)]

/-! ## The row that links stand for -/

/-- **What is returned is a row.** -/
theorem ordered_of_orderedHistory (h : orderedHistory links = .ok path) : Ordered links path := by
  unfold orderedHistory at h
  split at h
  · next hempty =>
    cases h
    have hkeys : links.keys = [] := congrArg (List.map Prod.fst) (List.isEmpty_iff.1 hempty)
    exact ⟨by rw [hkeys], fun _ hstep => (nomatch hstep), .nil⟩
  · split at h
    · next root hroots =>
      cases hf : followers root .empty links.entries with
      | error err =>
        rw [hf] at h
        cases h
      | ok following =>
        simp only [hf, bind, Except.bind] at h
        split at h
        · next hlength =>
          cases h
          obtain ⟨hroot, hfirst⟩ := mem_roots_iff.1 (hroots ▸ List.mem_singleton_self root)
          obtain ⟨hnodup, hsub⟩ := chase_nodup hroot hf links.size
          obtain ⟨rest, hrest⟩ := chase_cons following links.size root
          have hlinked := (isChain_chase following links.size root).imp
            fun a b hab => ((following_iff hf).1 hab).1
          refine ⟨?_, fun step hstep => ?_, hlinked⟩
          · refine (List.subperm_of_subset hnodup hsub).perm_of_length_le ?_
            rw [hlength, OrderedMap.keys, List.length_map]
            exact Nat.le_refl _
          · rw [hrest] at hstep
            cases hstep
            exact hfirst
        · cases h
    · cases h

namespace Ordered

theorem nodup (h : Ordered links path) : path.Nodup := h.keys.nodup_iff.2 links.nodup

/-- The links of a row are its neighbours. -/
theorem link_iff (h : Ordered links path) (hhead : path.head? = some root) :
    links.get? b = some (some a) ∧ b ≠ root ↔ ∃ i, path[i]? = some a ∧ path[i + 1]? = some b := by
  constructor
  · rintro ⟨hlink, hne⟩
    have hmem : b ∈ path := h.keys.mem_iff.2 (OrderedMap.mem_keys_iff.2 ⟨_, hlink⟩)
    obtain ⟨i, c, hc, hb, hcb⟩ := exists_before h.linked hmem fun hb =>
      hne (Option.some.inj (hb.symm.trans hhead))
    obtain rfl : c = a := Option.some.inj (Option.some.inj (hcb.symm.trans hlink))
    exact ⟨i, hc, hb⟩
  · rintro ⟨i, ha, hb⟩
    obtain ⟨hi, rfl⟩ := List.getElem?_eq_some_iff.1 ha
    obtain ⟨hj, rfl⟩ := List.getElem?_eq_some_iff.1 hb
    refine ⟨h.linked.getElem i hj, fun heq => ?_⟩
    rw [List.head?_eq_getElem?, ← heq, ← List.getElem?_eq_getElem hj] at hhead
    have hzero := (List.getElem?_inj (Nat.zero_lt_of_lt hj) h.nodup).1 hhead
    cases hzero

/-- **Only the first step of a row is a root.** -/
theorem roots_eq (h : Ordered links path) (hhead : path.head? = some root) :
    (links.entries.filter (isRoot links)).map Prod.fst = [root] := by
  have hnodup : ((links.entries.filter (isRoot links)).map Prod.fst).Nodup :=
    links.nodup.sublist (List.filter_sublist.map Prod.fst)
  refine List.perm_singleton.1 ((List.perm_ext_iff_of_nodup hnodup (List.nodup_singleton root)).2 fun b => ?_)
  have hmem {b : Int} : b ∈ path ↔ links.contains b = true := by
    rw [h.keys.mem_iff, OrderedMap.mem_keys_iff, OrderedMap.contains_iff]
  rw [mem_roots_iff, List.mem_singleton]
  constructor
  · rintro ⟨hb, hfirst⟩
    by_contra hne
    obtain ⟨_, a, ha, -, hab⟩ := exists_before h.linked (hmem.2 hb) fun hb =>
      hne (Option.some.inj (hb.symm.trans hhead))
    have hfree := hfirst a hab
    rw [hmem.1 (List.mem_of_getElem? ha)] at hfree
    cases hfree
  · rintro rfl
    exact ⟨hmem.1 (List.mem_of_head? hhead), h.root b hhead⟩

/-- **A row has no branch.** -/
theorem followers_eq (h : Ordered links path) (hhead : path.head? = some root) :
    ∃ following, followers root .empty links.entries = .ok following := by
  cases hf : followers root .empty links.entries with
  | ok following => exact ⟨following, rfl⟩
  | error err =>
    obtain ⟨a, b, hb, hbroot, hempty | ⟨c, hc, hcroot, hne⟩⟩ := followers_error links.nodup hf
    · cases hempty
    · obtain ⟨i, hia, hib⟩ := (h.link_iff hhead).1 ⟨OrderedMap.get?_eq_some_iff.2 hb, hbroot⟩
      obtain ⟨j, hja, hjc⟩ := (h.link_iff hhead).1 ⟨OrderedMap.get?_eq_some_iff.2 hc, hcroot⟩
      obtain rfl : i = j :=
        (List.getElem?_inj (List.getElem?_eq_some_iff.1 hia).1 h.nodup).1 (hia.trans hja.symm)
      exact absurd (Option.some.inj (hjc.symm.trans hib)) hne

/-- **Every row is found.** -/
theorem orderedHistory_eq (h : Ordered links path) : orderedHistory links = .ok path := by
  have hsize : path.length = links.size := by
    rw [h.keys.length_eq, OrderedMap.keys, List.length_map]
    rfl
  unfold orderedHistory
  cases path with
  | nil =>
    have hempty : links.isEmpty = true := List.isEmpty_iff.2 (List.length_eq_zero_iff.1 hsize.symm)
    exact if_pos hempty
  | cons root rest =>
    obtain ⟨following, hf⟩ := h.followers_eq rfl
    have hempty : ¬links.isEmpty = true := fun hempty => by
      rw [OrderedMap.size, List.isEmpty_iff.1 hempty] at hsize
      cases hsize
    have hneighbours a b := (following_iff hf).trans (h.link_iff (a := a) (b := b) rfl)
    have hchase : chase following links.size root = root :: rest :=
      chase_eq_drop h.nodup hneighbours links.size 0 (Nat.zero_lt_succ _) (by omega)
    rw [if_neg hempty, h.roots_eq rfl]
    simp only [hf, bind, Except.bind, hchase]
    exact if_pos hsize

end Ordered

/-- **A history is rebuilt exactly**: it is the row in which its links can be put. -/
theorem orderedHistory_eq_ok_iff : orderedHistory links = .ok path ↔ Ordered links path :=
  ⟨ordered_of_orderedHistory, Ordered.orderedHistory_eq⟩

-- The first step may be linked to one that has no link. A circle beside a row leaves the row too short.
example : (orderedHistory (.ofList [(3, some 1), (1, some 9)])).toOption = some [1, 3] := by decide
example : (orderedHistory (.ofList [(1, none), (2, some 3), (3, some 2)])).toOption = none := by decide

/-- Links can be put in one row only. -/
theorem Ordered.unique {path' : List Int} (h : Ordered links path) (h' : Ordered links path') :
    path = path' := Except.ok.inj (h.orderedHistory_eq.symm.trans h'.orderedHistory_eq)

end Saved
end Walkthrough
