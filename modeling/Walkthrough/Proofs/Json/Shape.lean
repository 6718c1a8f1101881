/-
# What is read from JSON can be written

The reader is lenient in what it skips and in the order of things, but every value that it makes is one of a few
shapes (`shaped_of_read?`): integers have no more digits than may be written, no two members of an object have one
name, there are no days and moments, and nothing is nested deeper than it was allowed. That is all that the writer
asks for, but for one thing. A float is written in digits, and these have to give the float again; for the floats that
stand in a value this is assumed (`Shaped.readable`).
-/

import Walkthrough.Proofs.Json.RoundTrip

namespace Walkthrough

/-! ## Floats in values -/

namespace Value

mutual

/-- The floats that stand in a value. -/
def floats : Value → List Float
  | float x => [x]
  | list items => itemFloats items
  | dict entries => entryFloats entries
  | _ => []

/-- The floats that stand in a list of values. -/
def itemFloats : List Value → List Float
  | [] => []
  | v :: rest => floats v ++ itemFloats rest

/-- The floats that stand in a list of entries. -/
def entryFloats : List (Value × Value) → List Float
  | [] => []
  | (_, v) :: rest => floats v ++ entryFloats rest

end

theorem mem_itemFloats {x : Float} {v : Value} {items : List Value} (hv : v ∈ items) (hx : x ∈ v.floats) :
    x ∈ (list items).floats := by
  change x ∈ itemFloats items
  induction items with
  | nil => cases hv
  | cons w rest ih =>
    refine List.mem_append.2 ?_
    rcases List.mem_cons.1 hv with rfl | hv
    · exact .inl hx
    · exact .inr (ih hv)

theorem mem_entryFloats {x : Float} {e : Value × Value} {entries : List (Value × Value)} (he : e ∈ entries)
    (hx : x ∈ e.2.floats) : x ∈ (dict entries).floats := by
  change x ∈ entryFloats entries
  induction entries with
  | nil => cases he
  | cons f rest ih =>
    refine List.mem_append.2 ?_
    rcases List.mem_cons.1 he with rfl | he
    · exact .inl hx
    · exact .inr (ih he)

end Value

namespace Json

variable {fuel depth : Nat} {cs rest : List Char} {v : Value}

/-! ## Shapes -/

/-- **The values that are read**, nested at most so deep. -/
inductive Shaped : Nat → Value → Prop where
  | unset {depth : Nat} : Shaped depth .unset
  | bool {depth : Nat} (b : Bool) : Shaped depth (.bool b)
  | int {depth : Nat} {n : Int} (short : Value.isShort n = true) : Shaped depth (.int n)
  | float {depth : Nat} (x : Float) : Shaped depth (.float x)
  | text {depth : Nat} (s : String) : Shaped depth (.text s)
  | list {depth : Nat} {items : List Value} (h : ∀ v ∈ items, Shaped depth v) : Shaped (depth + 1) (.list items)
  | object {depth : Nat} {members : List (String × Value)} (names : (members.map Prod.fst).Nodup)
    (h : ∀ m ∈ members, Shaped depth m.2) :
    Shaped (depth + 1) (.dict (members.map fun m => (.text m.1, m.2)))

/-- **A value that was read can be written**, and is read back, if its floats have exact texts. -/
theorem Shaped.readable (h : Shaped depth v) (floats : ∀ x ∈ v.floats, IsExact x) : Readable depth v := by
  induction h with
  | unset => exact .unset
  | bool b => exact .bool b
  | int short => exact .int short
  | float x => exact .float (floats x List.mem_cons_self)
  | text s => exact .text s
  | list h ih => exact .list fun v hv => ih v hv fun x hx => floats x (Value.mem_itemFloats hv hx)
  | object names h ih =>
    refine .object names fun m hm => ih m hm fun x hx => floats x ?_
    exact Value.mem_entryFloats (List.mem_map_of_mem (f := fun m : String × Value => (Value.text m.1, m.2)) hm) hx

/-- An object keeps some of its members, no two with one name. -/
theorem shaped_object {members : List (String × Value)} (h : ∀ m ∈ members, Shaped depth m.2) :
    Shaped (depth + 1) (object members) :=
  .object (OrderedMap.ofList members).nodup fun m hm => h m (OrderedMap.mem_of_mem_ofList hm)

/-! ## Reading -/

theorem shaped_of_number? {negative : Bool} (h : number? negative cs = some (v, rest)) : Shaped depth v := by
  unfold number? at h
  obtain ⟨⟨whole, r⟩, -, h⟩ := Option.bind_eq_some_iff.1 h
  dsimp only at h
  split at h
  · cases h
  obtain ⟨⟨fraction, r'⟩, -, h⟩ := Option.bind_eq_some_iff.1 h
  obtain ⟨⟨exponent, r''⟩, -, h⟩ := Option.bind_eq_some_iff.1 h
  dsimp only at h
  split at h
  · split at h
    · cases h
    · next hshort =>
      cases h
      have hplaces : 0 + whole.length ≤ Number.maxDigits := by simpa using hshort
      have hlt : (Number.takeDigits 0 0 whole).1 < 10 ^ (0 + whole.length) := Number.takeDigits_lt Nat.one_pos whole
      refine .int (decide_eq_true ?_)
      rw [Number.natAbs_signed]
      exact Nat.lt_of_lt_of_le hlt (Nat.pow_le_pow_right (by decide) hplaces)
  · obtain ⟨⟨m, x⟩, -, h⟩ := Option.bind_eq_some_iff.1 h
    cases h
    exact .float _

/-- **What the reader makes**, of a value, of the items of an array and of the members of an object. -/
structure MakesShaped (fuel : Nat) : Prop where
  value : ∀ {depth cs v rest}, value? fuel depth cs = some (v, rest) → Shaped depth v
  items : ∀ {depth cs vs rest}, items? fuel depth cs = some (vs, rest) → ∀ v ∈ vs, Shaped depth v
  members : ∀ {depth cs ms rest}, members? fuel depth cs = some (ms, rest) → ∀ m ∈ ms, Shaped depth m.2

theorem makesShaped_zero : MakesShaped 0 where
  value h := by
    unfold value? at h
    cases h
  items h := by
    unfold items? at h
    cases h
  members h := by
    unfold members? at h
    cases h

/-- A value is a word, a number, a text or a block whose parts were made with less fuel. -/
theorem MakesShaped.value_succ (ih : MakesShaped fuel) (h : value? (fuel + 1) depth cs = some (v, rest)) :
    Shaped depth v := by
  unfold value? at h
  split at h
  case h_1 heq => cases heq
  case h_2 => cases h; exact .unset
  case h_3 | h_4 => cases h; exact .bool _
  case h_5 | h_6 | h_7 => cases h; exact .float _
  case h_8 | h_12 => exact shaped_of_number? h
  case h_9 =>
    obtain ⟨⟨s, r⟩, -, heq⟩ := Option.map_eq_some_iff.1 h
    cases heq
    exact .text s
  case h_10 heq =>
    cases heq
    split at h
    · cases h
    · split at h
      · cases h
        exact .list fun _ hv => absurd hv List.not_mem_nil
      · obtain ⟨⟨vs, r⟩, hitems, heq⟩ := Option.map_eq_some_iff.1 h
        cases heq
        exact .list (ih.items hitems)
  case h_11 heq =>
    cases heq
    split at h
    · cases h
    · split at h
      · cases h
        exact shaped_object fun _ hm => absurd hm List.not_mem_nil
      · obtain ⟨⟨ms, r⟩, hmembers, heq⟩ := Option.map_eq_some_iff.1 h
        cases heq
        exact shaped_object (ih.members hmembers)

theorem MakesShaped.items_succ (ih : MakesShaped fuel) {vs : List Value}
    (h : items? (fuel + 1) depth cs = some (vs, rest)) : ∀ v ∈ vs, Shaped depth v := by
  unfold items? at h
  obtain ⟨⟨v, r⟩, hv, h⟩ := Option.bind_eq_some_iff.1 h
  dsimp only at h
  split at h
  · obtain ⟨⟨more, r'⟩, hmore, h⟩ := Option.bind_eq_some_iff.1 h
    cases h
    exact List.forall_mem_cons.2 ⟨ih.value hv, ih.items hmore⟩
  · cases h
    exact List.forall_mem_singleton.2 (ih.value hv)
  · cases h

theorem MakesShaped.members_succ (ih : MakesShaped fuel) {ms : List (String × Value)}
    (h : members? (fuel + 1) depth cs = some (ms, rest)) : ∀ m ∈ ms, Shaped depth m.2 := by
  unfold members? at h
  split at h
  · obtain ⟨⟨name, r⟩, -, h⟩ := Option.bind_eq_some_iff.1 h
    dsimp only at h
    split at h
    · obtain ⟨⟨v, r'⟩, hv, h⟩ := Option.bind_eq_some_iff.1 h
      dsimp only at h
      split at h
      · obtain ⟨⟨more, r''⟩, hmore, h⟩ := Option.bind_eq_some_iff.1 h
        cases h
        exact List.forall_mem_cons.2 ⟨ih.value hv, ih.members hmore⟩
      · cases h
        exact List.forall_mem_singleton.2 (ih.value hv)
      · cases h
    · cases h
  · cases h

theorem makesShaped (fuel : Nat) : MakesShaped fuel := by
  induction fuel with
  | zero => exact makesShaped_zero
  | succ fuel ih => exact ⟨ih.value_succ, ih.items_succ, ih.members_succ⟩

/-- **What is read from a text** is a value of one of the shapes. -/
theorem shaped_of_read? {s : String} (h : read? s = some v) : Shaped maxDepth v := by
  unfold read? at h
  dsimp only at h
  split at h
  · next w left hvalue =>
    split at h
    · cases h
      exact (makesShaped _).value hvalue
    · cases h
  · cases h

end Json
end Walkthrough
