/-
# Looking things up in ordered maps

An ordered map seen through `get?`: a key is in the map exactly if a value is found under it (`mem_keys_iff`),
maps in which the same is found have one size (`size_congr`), and a map is made again by writing its own entries
into an empty one (`insertAll_entries`).
-/

import Walkthrough.OrderedMap

namespace Walkthrough
namespace OrderedMap

variable {κ ν : Type}

/-- Maps with the same entries are the same. -/
theorem ext {m n : OrderedMap κ ν} (h : m.entries = n.entries) : m = n := by
  cases m; cases n; cases h; rfl

variable [DecidableEq κ]

theorem contains_eq {m : OrderedMap κ ν} {k : κ} : m.contains k = (m.get? k).isSome := by
  rw [Bool.eq_iff_iff, contains, get?, Option.isSome_map, List.find?_isSome, List.any_eq_true]

theorem contains_iff {m : OrderedMap κ ν} {k : κ} : m.contains k = true ↔ ∃ v, m.get? k = some v := by
  rw [contains_eq, Option.isSome_iff_exists]

theorem mem_keys_iff {m : OrderedMap κ ν} {k : κ} : k ∈ m.keys ↔ ∃ v, m.get? k = some v := by
  simp [keys, get?_eq_some_iff]

/-- Maps in which the same is found have the same number of entries. -/
theorem size_congr {m n : OrderedMap κ ν} (h : ∀ k, n.get? k = m.get? k) : n.size = m.size := by
  have hkeys : ∀ k, k ∈ n.keys ↔ k ∈ m.keys := fun k => by rw [mem_keys_iff, mem_keys_iff, h]
  have hperm := (List.perm_ext_iff_of_nodup n.nodup m.nodup).2 hkeys
  simpa [size, keys] using hperm.length_eq

/-! ## Writing and erasing -/

theorem mem_put {k : κ} {v : ν} {es : List (κ × ν)} {e : κ × ν} (h : e ∈ put k v es) :
    e = (k, v) ∨ e ∈ es := by
  induction es with
  | nil => exact .inl (List.mem_singleton.1 h)
  | cons f rest ih =>
    unfold put at h
    split at h
    · next hk =>
      rcases List.mem_cons.1 h with h | h
      · exact .inl (hk ▸ h)
      · exact .inr (List.mem_cons_of_mem _ h)
    · rcases List.mem_cons.1 h with h | h
      · exact .inr (h ▸ List.mem_cons_self)
      · exact (ih h).imp_right (List.mem_cons_of_mem _)

/-- Erasing several keys, one after the other. -/
theorem get?_foldl_erase {ks : List κ} {m : OrderedMap κ ν} {l : κ} :
    (ks.foldl (fun m k => m.erase k) m).get? l = if l ∈ ks then none else m.get? l := by
  induction ks generalizing m with
  | nil => simp
  | cons k rest ih =>
    rw [List.foldl_cons, ih, get?_erase]
    by_cases h : l = k <;> simp [h]

/-- Keeping some of the entries, by their values. -/
theorem get?_of_filter {m n : OrderedMap κ ν} {p : ν → Bool}
    (h : n.entries = m.entries.filter fun e => p e.2) (k : κ) : n.get? k = (m.get? k).filter p := by
  apply Option.ext
  intro v
  rw [get?_eq_some_iff, h, List.mem_filter, Option.filter_eq_some_iff, get?_eq_some_iff]

/-! ## Writing many entries -/

theorem put_of_not_mem {k : κ} {v : ν} {es : List (κ × ν)} (h : k ∉ es.map Prod.fst) :
    put k v es = es ++ [(k, v)] := by
  induction es with
  | nil => rfl
  | cons e rest ih =>
    obtain ⟨k', w⟩ := e
    simp only [List.map_cons, List.mem_cons, not_or] at h
    rw [put, if_neg (Ne.symm h.1), ih h.2, List.cons_append]

/-- Writing under a key that is new: the entry comes last, and the keys that follow stay new. -/
theorem insert_new {m : OrderedMap κ ν} {k : κ} {es : List (κ × ν)} {w : ν}
    (h : ((m.entries ++ (k, w) :: es).map Prod.fst).Nodup) (v : ν) :
    m.contains k = false ∧ (m.insert k v).entries = m.entries ++ [(k, v)] ∧
      (((m.insert k v).entries ++ es).map Prod.fst).Nodup := by
  have hk : k ∉ m.entries.map Prod.fst := by
    rw [List.map_append, List.nodup_append] at h
    exact fun hm => h.2.2 k hm k List.mem_cons_self rfl
  have hm : (m.insert k v).entries = m.entries ++ [(k, v)] := put_of_not_mem hk
  refine ⟨?_, hm, by simpa [hm] using h⟩
  rw [Bool.eq_false_iff, ne_eq, contains_iff, ← mem_keys_iff]
  exact hk

theorem entries_insertAll {es : List (κ × ν)} {m : OrderedMap κ ν}
    (h : ((m.entries ++ es).map Prod.fst).Nodup) : (m.insertAll es).entries = m.entries ++ es := by
  induction es generalizing m with
  | nil => simp [insertAll]
  | cons e rest ih =>
    obtain ⟨k, v⟩ := e
    obtain ⟨-, hm, hn⟩ := insert_new h v
    have := ih hn
    rw [hm, List.append_assoc, List.singleton_append] at this
    exact this

/-- The entries of a map make the map again. -/
theorem insertAll_entries (m : OrderedMap κ ν) : empty.insertAll m.entries = m :=
  ext (entries_insertAll m.nodup)

theorem mem_insertAll {es : List (κ × ν)} {m : OrderedMap κ ν} {e : κ × ν}
    (h : e ∈ (m.insertAll es).entries) : e ∈ m.entries ∨ e ∈ es := by
  induction es generalizing m with
  | nil => exact .inl h
  | cons f rest ih =>
    rcases ih h with h | h
    · exact (mem_put h).elim (fun h => .inr (h ▸ List.mem_cons_self)) .inl
    · exact .inr (List.mem_cons_of_mem _ h)

/-- The keys after writing many entries. -/
theorem mem_keys_insertAll {m : OrderedMap κ ν} (es : List (κ × ν)) (k : κ) :
    k ∈ (m.insertAll es).keys ↔ k ∈ m.keys ∨ k ∈ es.map Prod.fst := by
  induction es generalizing m with
  | nil => exact ⟨.inl, fun h => h.resolve_right List.not_mem_nil⟩
  | cons e rest ih =>
    have hput : k ∈ (m.insert e.1 e.2).keys ↔ k = e.1 ∨ k ∈ m.keys := mem_keys_put
    refine ih.trans ?_
    rw [hput, List.map_cons, List.mem_cons, or_assoc, or_left_comm]

/-- What a list of entries leaves in a map was in the list. -/
theorem mem_of_mem_ofList {es : List (κ × ν)} {e : κ × ν} (h : e ∈ (ofList es).entries) : e ∈ es :=
  (mem_insertAll h).elim (fun h => absurd h List.not_mem_nil) id

end OrderedMap
end Walkthrough
