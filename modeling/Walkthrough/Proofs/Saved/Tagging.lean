/-
# Tagging, call by call

The tables of tags after any calls, those that were refused included (`TagTables.after`). One call keeps what
is true of them (`Kept.attempt`): they agree, and no tag is blank. So after any calls the two tables are inverse
to each other but for case and the blanks around a tag, and have one size; a tag that was replaced is free again,
and a call that is refused changes nothing (`after_inverse`).
-/

import Mathlib.Data.List.Nodup
import Walkthrough.Proofs.OrderedMap
import Walkthrough.Proofs.Text.Trimming
import Walkthrough.Saved.TagMap

namespace Walkthrough
namespace TagTables

variable {t t' : TagTables} {id : Value} {tag old : String} {n : Int}

/-! ## Calls -/

/-- The tables that a call leaves behind, also where it breaks off. -/
def left : EStateM.Result Stop TagTables Unit → TagTables
  | .ok _ t => t
  | .error _ t => t

/-- **The tables after calls** one after the other, accepted or refused. -/
def after (calls : List (Value × String)) : TagTables :=
  calls.foldl (fun t call => left (add call.1 call.2 t)) empty

/-- What calls keep: the tables agree, and no tag is blank. -/
structure Kept (t : TagTables) : Prop where
  agree : t.Agree
  filled : ∀ n tag, t.tag? n = some tag → Text.isBlank tag = false

theorem kept_empty : empty.Kept := ⟨agree_empty, fun _ _ h => nomatch h⟩

theorem Kept.tagged (h : t.Kept) (filled : Text.isBlank tag = false) (free : t.isTaken n (nameKey tag) = false) :
    (t.tagged n tag).Kept := by
  refine ⟨h.agree.tagged free, fun m text hm => ?_⟩
  rw [tag?, TagTables.tagged, OrderedMap.get?_insert] at hm
  split at hm
  · rw [← Option.some.inj hm, Text.isBlank_strip, filled]
  · exact h.filled m text hm

/-- One call keeps what is true of the tables. -/
theorem Kept.attempt (h : t.Kept) (id : Value) (tag : String) : (left (add id tag t)).Kept := by
  obtain ⟨cause, heq⟩ | ⟨n, -, filled, free, heq⟩ := h.agree.add_cases id tag
  · rw [heq]
    exact h
  · rw [heq]
    exact h.tagged filled free

theorem kept_after (calls : List (Value × String)) : (after calls).Kept := by
  suffices hfold : ∀ t : TagTables, t.Kept → (calls.foldl (fun t call => left (add call.1 call.2 t)) t).Kept from
    hfold empty kept_empty
  induction calls with
  | nil => exact fun t h => h
  | cons call calls ih => exact fun t h => ih _ (h.attempt call.1 call.2)

/-! ## Tables that agree are inverse to each other -/

theorem Agree.id?_eq_some_iff (h : t.Agree) :
    t.id? tag = some n ↔ ∃ text, t.tag? n = some text ∧ nameKey text = nameKey tag := h (nameKey tag) n

/-- **The keys of the tags** are the keys of the other table. -/
theorem Agree.perm_keys (h : t.Agree) : (t.tags.entries.map fun e => nameKey e.2).Perm t.ids.keys := by
  have hfound : ∀ e ∈ t.tags.entries, t.ids.get? (nameKey e.2) = some e.1 :=
    fun e he => (h _ _).2 ⟨e.2, OrderedMap.get?_eq_some_iff.2 he, rfl⟩
  have hinjective : ∀ d ∈ t.tags.entries, ∀ e ∈ t.tags.entries, nameKey d.2 = nameKey e.2 → d = e := by
    intro d hd e he hkey
    have hd' := hfound d hd
    rw [hkey, hfound e he] at hd'
    exact List.inj_on_of_nodup_map t.tags.nodup hd he (Option.some.inj hd').symm
  refine (List.perm_ext_iff_of_nodup (t.tags.nodup.of_map.map_on hinjective) t.ids.nodup).2 fun key => ?_
  rw [← OrderedMap.keys, OrderedMap.mem_keys_iff, List.mem_map]
  constructor
  · rintro ⟨e, he, rfl⟩
    exact ⟨e.1, hfound e he⟩
  · rintro ⟨n, hn⟩
    obtain ⟨tag, htag, hkey⟩ := (h key n).1 hn
    exact ⟨(n, tag), OrderedMap.get?_eq_some_iff.1 htag, hkey⟩

theorem Agree.size_eq (h : t.Agree) : t.tags.size = t.ids.size := by
  have hlength := h.perm_keys.length_eq
  rwa [List.length_map, OrderedMap.keys, List.length_map] at hlength

/-! ## A tag that is replaced -/

/-- The key of a tag that is replaced belongs to no number any more. -/
theorem Agree.id?_replaced (h : t.Agree) (hold : t.tag? n = some old) (hkey : nameKey old ≠ nameKey tag) :
    (t.tagged n tag).id? old = none := by
  rw [id?, TagTables.tagged, OrderedMap.get?_insert, if_neg hkey, Option.eq_none_iff_forall_ne_some]
  intro m hm
  obtain ⟨hm, hne⟩ := h.get?_freed.1 hm
  exact hne (Option.some.inj (hm.symm.trans ((h _ n).2 ⟨old, hold, rfl⟩)))

theorem isTaken_of_none (h : t.id? tag = none) : t.isTaken n (nameKey tag) = false :=
  isTaken_eq_false_iff.2 fun _ hm => nomatch h.symm.trans hm

/-- **The tables of tags after any calls.** Each is the inverse of the other but for case and the blanks around a
tag, and both have one size. One more call that is accepted writes the tag of its number and no other; a tag
that it replaces, unless the new one matches it, is free for every number. One more call that is refused
changes neither table. -/
theorem after_inverse (calls : List (Value × String)) :
    let t := after calls
    (∀ n tag, t.tag? n = some tag → t.id? tag = some n) ∧
    (∀ tag n, t.id? tag = some n ↔ ∃ text, t.tag? n = some text ∧ nameKey text = nameKey tag) ∧
    t.tags.size = t.ids.size ∧
    ∀ id tag,
      (∀ t', add id tag t = .ok () t' → ∃ n, number? id = some n ∧
        (∀ m, t'.tag? m = if m = n then some (Text.strip tag) else t.tag? m) ∧
        ∀ old, t.tag? n = some old → nameKey old ≠ nameKey tag →
          t'.id? old = none ∧ ∀ other m, number? other = some m → ∃ t'', add other old t' = .ok () t'') ∧
      ∀ stop t', add id tag t = .error stop t' → t' = t ∧ ∃ cause, stop = .refused cause := by
  intro t
  have hkept : t.Kept := kept_after calls
  refine ⟨fun n tag h => hkept.agree.id?_eq_some_iff.2 ⟨tag, h, rfl⟩, fun tag n => hkept.agree.id?_eq_some_iff,
    hkept.agree.size_eq, fun id tag => ?_⟩
  obtain ⟨cause, heq⟩ | ⟨n, hn, filled, free, heq⟩ := hkept.agree.add_cases id tag
  · rw [heq]
    exact ⟨fun t' h => (nomatch h), fun stop t' h => by cases h; exact ⟨rfl, cause, rfl⟩⟩
  · rw [heq]
    refine ⟨fun t' h => ?_, fun stop t' h => (nomatch h)⟩
    cases h
    refine ⟨n, hn, fun m => OrderedMap.get?_insert, fun old hold hkey => ?_⟩
    have hnone := hkept.agree.id?_replaced hold hkey
    exact ⟨hnone, fun other m hm => ⟨_, (hkept.tagged filled free).agree.add_of_free hm (hkept.filled n old hold)
      (isTaken_of_none hnone)⟩⟩

-- The second number gets the first tag once it is free.
example : (after [(.int 1, "Up"), (.int 2, " up "), (.int 1, "Down"), (.int 2, " up ")]).items =
    [(1, "Down"), (2, "up")] := by decide +kernel

end TagTables
end Walkthrough
