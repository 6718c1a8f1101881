/-
# The links of a path

A path is saved as its links, each step with the step before it. They can be put in a row again, in whatever
order they are read, and the row is the path (`ordered_of_perm`).
-/

import Walkthrough.Proofs.Saved.Ordering

namespace Walkthrough
namespace Saved

variable {p : Int} {path rest : List Int}

/-- The links of a path after the step `previous`. -/
def linksOf (previous : Option Int) : List Int → List (Int × Option Int)
  | [] => []
  | step :: rest => (step, previous) :: linksOf (some step) rest

theorem keys_linksOf (previous : Option Int) (path : List Int) :
    (linksOf previous path).map Prod.fst = path := by
  induction path generalizing previous with
  | nil => rfl
  | cons step rest ih => rw [linksOf, List.map_cons, ih]

/-- A path with other numbers has the links with the other numbers. -/
theorem linksOf_map (f : Int → Int) (previous : Option Int) (path : List Int) :
    linksOf (previous.map f) (path.map f) = (linksOf previous path).map fun l => (f l.1, l.2.map f) := by
  induction path generalizing previous with
  | nil => rfl
  | cons step rest ih => rw [List.map_cons, linksOf, linksOf, List.map_cons, ← ih (some step), Option.map_some]

/-- What stands before a step of the rest of a path is on the path. -/
theorem mem_linksOf {link : Int × Option Int} (h : link ∈ linksOf (some p) rest) :
    link.1 ∈ rest ∧ ∃ q, link.2 = some q ∧ q ∈ p :: rest := by
  induction rest generalizing p with
  | nil => cases h
  | cons step rest ih =>
    rcases List.mem_cons.1 h with rfl | h
    · exact ⟨List.mem_cons_self, p, rfl, List.mem_cons_self⟩
    · obtain ⟨hlink, q, hq, hmem⟩ := ih h
      exact ⟨List.mem_cons_of_mem _ hlink, q, hq, List.mem_cons_of_mem _ hmem⟩

/-- Each step of a path after `p` has a link to the step before it. -/
theorem isChain_of_linksOf {es : List (Int × Option Int)} (h : ∀ l ∈ linksOf (some p) rest, l ∈ es) :
    (p :: rest).IsChain fun a b => (b, some a) ∈ es := by
  induction rest generalizing p with
  | nil => exact .singleton p
  | cons step rest ih =>
    obtain ⟨hstep, hrest⟩ := List.forall_mem_cons.1 h
    exact .cons_cons hstep (ih hrest)

/-- **The links of a path can be put in a row**, which is the path, in whatever order they are. -/
theorem ordered_of_perm {links : Links} (hnodup : path.Nodup) (h : links.entries.Perm (linksOf none path)) :
    Ordered links path := by
  have hget {b : Int} {q : Option Int} (hb : (b, q) ∈ linksOf none path) : links.get? b = some q :=
    OrderedMap.get?_eq_some_iff.2 (h.mem_iff.2 hb)
  have hkeys : path.Perm links.keys := by
    have hmap := (h.map Prod.fst).symm
    rwa [keys_linksOf] at hmap
  cases path with
  | nil => exact ⟨hkeys, fun _ hstep => (nomatch hstep), .nil⟩
  | cons root rest =>
    refine ⟨hkeys, fun step hstep previous hprevious => ?_, ?_⟩
    · obtain rfl : root = step := Option.some.inj hstep
      rw [hget List.mem_cons_self] at hprevious
      cases hprevious
    · exact (isChain_of_linksOf fun l hl => List.mem_cons_of_mem (root, none) hl).imp fun a b hab => hget hab

end Saved
end Walkthrough
