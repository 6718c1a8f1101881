/-
# Maps that keep the order of insertion

A finite map as the list of its entries, oldest first. Writing to a key that is present keeps its
place. That no key occurs twice is part of the type.

| operation | keys afterwards |
| --- | --- |
| `insert k v`, `k` present | unchanged |
| `insert k v`, `k` absent | `keys ++ [k]` |
| `erase k` | without `k` |
-/

namespace Walkthrough

/-- A finite map in order of insertion. -/
structure OrderedMap (κ ν : Type) where
  entries : List (κ × ν)
  nodup : (entries.map Prod.fst).Nodup

namespace OrderedMap

variable {κ ν : Type} [DecidableEq κ]

/-- The entries after writing `v` under `k`. -/
def put (k : κ) (v : ν) : List (κ × ν) → List (κ × ν)
  | [] => [(k, v)]
  | (k', w) :: rest => if k' = k then (k', v) :: rest else (k', w) :: put k v rest

theorem mem_keys_put {k x : κ} {v : ν} {es : List (κ × ν)} :
    x ∈ (put k v es).map Prod.fst ↔ x = k ∨ x ∈ es.map Prod.fst := by
  induction es with
  | nil => simp [put]
  | cons e rest ih =>
    obtain ⟨k', w⟩ := e
    unfold put
    split
    · next h => subst h; simp
    · simp only [List.map_cons, List.mem_cons, ih]
      constructor <;> (rintro (h | h | h) <;> simp [h])

theorem nodup_put {k : κ} {v : ν} {es : List (κ × ν)} (h : (es.map Prod.fst).Nodup) :
    ((put k v es).map Prod.fst).Nodup := by
  induction es with
  | nil => simp [put]
  | cons e rest ih =>
    obtain ⟨k', w⟩ := e
    simp only [List.map_cons, List.nodup_cons] at h
    unfold put
    split
    · simpa using h
    · next hne =>
      simp only [List.map_cons, List.nodup_cons, mem_keys_put]
      exact ⟨fun hc => hc.elim hne h.1, ih h.2⟩

/-- The map without entries. -/
def empty : OrderedMap κ ν := ⟨[], by simp⟩

instance : Inhabited (OrderedMap κ ν) := ⟨empty⟩

instance [DecidableEq ν] : DecidableEq (OrderedMap κ ν) := fun a b =>
  if h : a.entries = b.entries then
    isTrue (by cases a; cases b; cases h; rfl)
  else isFalse (fun e => h (by rw [e]))

/-- Writes `v` under `k`; a key that is present keeps its place. -/
def insert (m : OrderedMap κ ν) (k : κ) (v : ν) : OrderedMap κ ν :=
  ⟨put k v m.entries, nodup_put m.nodup⟩

/-- The map without the entry of `k`. -/
def erase (m : OrderedMap κ ν) (k : κ) : OrderedMap κ ν :=
  ⟨m.entries.filter fun e => !decide (e.1 = k), by
    have h := m.nodup
    rw [List.Nodup, List.pairwise_map] at h ⊢
    exact h.filter _⟩

/-- The value under `k`. -/
def get? (m : OrderedMap κ ν) (k : κ) : Option ν :=
  (m.entries.find? fun e => decide (e.1 = k)).map Prod.snd

/-- Whether `k` is a key. -/
def contains (m : OrderedMap κ ν) (k : κ) : Bool := m.entries.any fun e => decide (e.1 = k)

/-- The keys, oldest first. -/
def keys (m : OrderedMap κ ν) : List κ := m.entries.map Prod.fst

/-- The values, in the order of their keys. -/
def values (m : OrderedMap κ ν) : List ν := m.entries.map Prod.snd

/-- The number of entries. -/
def size (m : OrderedMap κ ν) : Nat := m.entries.length

/-- Whether there is no entry. -/
def isEmpty (m : OrderedMap κ ν) : Bool := m.entries.isEmpty

/-- Writes a list of entries, one after the other. -/
def insertAll (m : OrderedMap κ ν) (es : List (κ × ν)) : OrderedMap κ ν :=
  es.foldl (fun m e => m.insert e.1 e.2) m

/-- The map of a list of entries; of two with one key the later wins. -/
def ofList (es : List (κ × ν)) : OrderedMap κ ν := empty.insertAll es

/-- The map with every value replaced. -/
def mapValues {ν' : Type} (m : OrderedMap κ ν) (f : ν → ν') : OrderedMap κ ν' :=
  ⟨m.entries.map fun e => (e.1, f e.2), by
    have h := m.nodup
    simpa [List.map_map, Function.comp_def] using h⟩

/-! ## Looking up -/

@[simp] theorem get?_empty (k : κ) : (empty : OrderedMap κ ν).get? k = none := rfl

/-- **Lookup and membership.** No key occurs twice, so the value found under a key is that of any entry
with the key. -/
theorem get?_eq_some_iff {m : OrderedMap κ ν} {k : κ} {v : ν} :
    m.get? k = some v ↔ (k, v) ∈ m.entries := by
  obtain ⟨es, nodup⟩ := m
  unfold get?
  induction es with
  | nil => simp
  | cons e rest ih =>
    obtain ⟨l, w⟩ := e
    simp only [List.map_cons, List.nodup_cons] at nodup
    have hl : l = k → (k, v) ∉ rest := by
      rintro rfl h
      exact nodup.1 (List.mem_map_of_mem h)
    rw [List.find?_cons, List.mem_cons]
    by_cases h : l = k
    · simp only [h, decide_true, Option.map_some, Option.some.injEq, Prod.mk.injEq, true_and]
      exact ⟨fun hw => .inl hw.symm, fun hw => hw.elim Eq.symm fun hr => absurd hr (hl h)⟩
    · simp only [h, decide_false]
      rw [ih nodup.2]
      simp [Ne.symm h]

theorem find?_put {k l : κ} {v : ν} {es : List (κ × ν)} :
    (put k v es).find? (fun e => decide (e.1 = l)) =
      if l = k then some (k, v) else es.find? fun e => decide (e.1 = l) := by
  induction es with
  | nil => by_cases h : l = k <;> simp [put, h, Ne.symm]
  | cons e rest ih =>
    obtain ⟨k', w⟩ := e
    unfold put
    by_cases hk : k' = k
    · subst hk
      by_cases h : l = k'
      · simp [h]
      · simp [h, Ne.symm h]
    · by_cases h : k' = l
      · subst h
        simp [hk]
      · simp [hk, h, ih]

@[simp] theorem get?_insert {m : OrderedMap κ ν} {k l : κ} {v : ν} :
    (m.insert k v).get? l = if l = k then some v else m.get? l := by
  unfold get? insert
  rw [find?_put]
  by_cases h : l = k <;> simp [h]

@[simp] theorem get?_erase {m : OrderedMap κ ν} {k l : κ} :
    (m.erase k).get? l = if l = k then none else m.get? l := by
  apply Option.ext
  intro v
  rw [get?_eq_some_iff]
  by_cases h : l = k
  · simp [erase, h]
  · simp [erase, h, get?_eq_some_iff]

end OrderedMap
end Walkthrough
