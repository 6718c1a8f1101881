/-
# Tags

A tag is a name for a number of a script that stays when the script is renumbered. Tags are matched
without regard to case and to blanks around them: what counts is the key of a tag (`nameKey`).

A map of tags has two tables, the tag of each number and the number of each key. Adding a tag looks
into both and then writes them one after the other:

| step | reads | writes |
| --- | --- | --- |
| refuse a number that is not positive, a blank tag, a key of another number | `ids` | |
| erase the key of the tag that the number has | `tags` | `ids` |
| write the new tag | | `tags` |
| write its key | | `ids` |

In between the tables differ. That they say the same before and after (`TagTables.Agree`) is part of the
type of tag maps, so no number has two tags and no two numbers have tags that match.
-/

import Walkthrough.Error.Basic
import Walkthrough.Function.Registry

namespace Walkthrough

/-- The tables behind tags: the tag of each number, and the number of each key. -/
structure TagTables where
  tags : OrderedMap Int String
  ids : OrderedMap String Int

namespace TagTables

/-- The tables without tags. -/
def empty : TagTables := ⟨.empty, .empty⟩

/-- The tag of a number. -/
def tag? (t : TagTables) (id : Int) : Option String := t.tags.get? id

/-- The number of a tag. -/
def id? (t : TagTables) (tag : String) : Option Int := t.ids.get? (nameKey tag)

/-- Whether there are no tags. -/
def isEmpty (t : TagTables) : Bool := t.tags.isEmpty

/-- The numbers with their tags, in the order in which they were first tagged. -/
def items (t : TagTables) : List (Int × String) := t.tags.entries

/-- The number of tags. -/
def size (t : TagTables) : Nat := t.tags.size

/-! ## Tagging -/

/-- How tagging breaks off: the tag is refused, or a key that is to be erased is not there. -/
inductive Stop where
  | refused (cause : TagFault)
  | missingKey

/-- A change of the tables. What it did before it broke off stays done. -/
abbrev Act := EStateM Stop TagTables

/-- The number that a value is, if it can have a tag: a positive integer. -/
def number? : Value → Option Int
  | .int n => if 0 < n then some n else none
  | .bool b => if b then some 1 else none
  | _ => none

/-- Whether a key belongs to another number. -/
def isTaken (t : TagTables) (id : Int) (key : String) : Bool := (t.ids.get? key).any (· != id)

/-- Erases a key, which has to be there. -/
def eraseKey (key : String) : Act Unit := do
  let t ← get
  match t.ids.get? key with
  | some _ => set { t with ids := t.ids.erase key }
  | none => throw .missingKey

/-- Erases the key of the tag that a number has. -/
def release (n : Int) : Act Unit := do
  let t ← get
  match t.tags.get? n with
  | some old => eraseKey (nameKey old)
  | none => return ()

/-- Writes the tag of a number into both tables; the key of the tag it had goes first. -/
def write (n : Int) (tag : String) : Act Unit := do
  release n
  modify fun t => { t with tags := t.tags.insert n (Text.strip tag) }
  modify fun t => { t with ids := t.ids.insert (nameKey tag) n }

/-- **Tagging.** Gives a positive number a tag; a tag it had before is free again. -/
def add (id : Value) (tag : String) : Act Unit := do
  let t ← get
  match number? id with
  | none => throw (.refused (.badId tag id))
  | some n =>
    if Text.isBlank tag then throw (.refused (.emptyTag id))
    else if t.isTaken n (nameKey tag) then throw (.refused (.repeatedTag tag))
    else write n tag

/-! ## Tables that agree -/

/-- **The tables agree** if a key belongs to a number exactly when it is the key of its tag. -/
def Agree (t : TagTables) : Prop :=
  ∀ key id, t.ids.get? key = some id ↔ ∃ tag, t.tags.get? id = some tag ∧ nameKey tag = key

variable {t t' : TagTables} {id : Value} {tag key : String} {n m : Int}

theorem agree_empty : empty.Agree := fun key id => by simp [empty]

theorem isTaken_eq_false_iff : t.isTaken n key = false ↔ ∀ m, t.ids.get? key = some m → m = n := by
  unfold isTaken
  cases t.ids.get? key <;> simp

/-- The keys without that of the tag of a number. -/
def freed (t : TagTables) (n : Int) : OrderedMap String Int :=
  match t.tags.get? n with
  | some old => t.ids.erase (nameKey old)
  | none => t.ids

/-- The tables in which a number has a new tag. -/
def tagged (t : TagTables) (n : Int) (tag : String) : TagTables :=
  ⟨t.tags.insert n (Text.strip tag), (t.freed n).insert (nameKey tag) n⟩

/-- The key of a number's tag is the only one that belongs to it. -/
theorem Agree.get?_freed (h : t.Agree) :
    (t.freed n).get? key = some m ↔ t.ids.get? key = some m ∧ m ≠ n := by
  have hn := h key n
  unfold freed
  cases hold : t.tags.get? n with
  | none =>
    refine ⟨fun hm => ⟨hm, ?_⟩, And.left⟩
    rintro rfl
    obtain ⟨old, heq, -⟩ := hn.1 hm
    rw [hold] at heq
    cases heq
  | some old =>
    have hkey : t.ids.get? key = some n ↔ key = nameKey old := by
      rw [hn]
      constructor
      · rintro ⟨tag, htag, rfl⟩
        rw [Option.some.inj (hold.symm.trans htag)]
      · rintro rfl
        exact ⟨old, hold, rfl⟩
    rw [OrderedMap.get?_erase]
    split
    · next heq =>
      rw [hkey.2 heq]
      constructor
      · intro hm
        cases hm
      · rintro ⟨hm, hne⟩
        exact absurd (Option.some.inj hm).symm hne
    · next hne =>
      refine ⟨fun hm => ⟨hm, ?_⟩, And.left⟩
      rintro rfl
      exact hne (hkey.1 hm)

/-- **Tagging keeps the tables in agreement.** -/
theorem Agree.tagged (h : t.Agree) (free : t.isTaken n (nameKey tag) = false) : (t.tagged n tag).Agree := by
  intro key m
  rw [TagTables.tagged, OrderedMap.get?_insert, OrderedMap.get?_insert]
  by_cases hm : m = n
  · subst hm
    by_cases hkey : key = nameKey tag
    · simp [hkey]
    · simp [hkey, h.get?_freed, Ne.symm hkey]
  · simp only [hm, if_false, ← h key m]
    split
    · next hkey =>
      subst hkey
      simp only [Option.some.injEq, Ne.symm hm, false_iff]
      exact fun heq => hm (isTaken_eq_false_iff.1 free m heq)
    · rw [h.get?_freed]
      exact and_iff_left hm

theorem eraseKey_eq (h : t.ids.get? key = some n) :
    eraseKey key t = .ok () { t with ids := t.ids.erase key } := by
  change (match t.ids.get? key with
    | some _ => set { t with ids := t.ids.erase key }
    | none => throw .missingKey : Act Unit) t = _
  rw [h]
  rfl

/-- In tables that agree the key of a tag is there when it is to be erased. -/
theorem Agree.release_eq (h : t.Agree) (n : Int) : release n t = .ok () { t with ids := t.freed n } := by
  change (match t.tags.get? n with
    | some old => eraseKey (nameKey old)
    | none => return () : Act Unit) t = _
  unfold freed
  cases hold : t.tags.get? n with
  | none => rfl
  | some old => exact eraseKey_eq ((h _ n).2 ⟨old, hold, rfl⟩)

theorem Agree.write_eq (h : t.Agree) (n : Int) (tag : String) : write n tag t = .ok () (t.tagged n tag) := by
  change EStateM.bind (release n) _ t = _
  rw [EStateM.bind, h.release_eq]
  rfl

/-- A positive number and a tag that is not blank are refused only if the tag belongs to another number. -/
theorem add_eq (hn : number? id = some n) (filled : Text.isBlank tag = false) : add id tag t =
    (if t.isTaken n (nameKey tag) then throw (.refused (.repeatedTag tag)) else write n tag : Act Unit) t := by
  unfold add
  rw [hn, filled]
  rfl

theorem Agree.add_of_free (h : t.Agree) (hn : number? id = some n) (filled : Text.isBlank tag = false)
    (free : t.isTaken n (nameKey tag) = false) : add id tag t = .ok () (t.tagged n tag) := by
  rw [add_eq hn filled, free]
  exact h.write_eq n tag

/-- **What tagging does** to tables that agree: it refuses and changes nothing, or it writes both. -/
theorem Agree.add_cases (h : t.Agree) (id : Value) (tag : String) :
    (∃ cause, add id tag t = .error (.refused cause) t) ∨
      ∃ n, number? id = some n ∧ Text.isBlank tag = false ∧ t.isTaken n (nameKey tag) = false ∧
        add id tag t = .ok () (t.tagged n tag) := by
  cases hn : number? id with
  | none => exact .inl ⟨.badId tag id, by unfold add; rw [hn]; rfl⟩
  | some n =>
    cases filled : Text.isBlank tag with
    | true => exact .inl ⟨.emptyTag id, by unfold add; rw [hn, filled]; rfl⟩
    | false =>
      cases free : t.isTaken n (nameKey tag) with
      | true => exact .inl ⟨.repeatedTag tag, by rw [add_eq hn filled, free]; rfl⟩
      | false => exact .inr ⟨n, rfl, rfl, free, h.add_of_free hn filled free⟩

theorem Agree.of_add (h : t.Agree) (hadd : add id tag t = .ok () t') : t'.Agree := by
  obtain ⟨cause, heq⟩ | ⟨n, -, -, hfree, heq⟩ := h.add_cases id tag
  · rw [heq] at hadd
    cases hadd
  · rw [heq] at hadd
    cases hadd
    exact h.tagged hfree

theorem Agree.add_ne_missingKey (h : t.Agree) : add id tag t ≠ .error .missingKey t' := fun hadd => by
  obtain ⟨cause, heq⟩ | ⟨n, -, -, -, heq⟩ := h.add_cases id tag <;> rw [heq] at hadd <;> cases hadd

end TagTables

/-- The tags of numbers. -/
structure TagMap extends TagTables where
  agree : toTagTables.Agree

namespace TagMap

/-- The map without tags. -/
def empty : TagMap := ⟨.empty, TagTables.agree_empty⟩

instance : Inhabited TagMap := ⟨empty⟩

/-- **Tagging.** Gives a positive number a tag; a tag it had before is free again. -/
def add (m : TagMap) (id : Value) (tag : String) : Except TagFault TagMap :=
  match h : TagTables.add id tag m.toTagTables with
  | .ok _ t => .ok ⟨t, m.agree.of_add h⟩
  | .error (.refused cause) _ => .error cause
  | .error .missingKey _ => absurd h m.agree.add_ne_missingKey

/-- The tags of a list of numbers, given one after the other. -/
def ofList? (items : List (Value × String)) : Except TagFault TagMap :=
  items.foldlM (fun m e => m.add e.1 e.2) empty

end TagMap
end Walkthrough
