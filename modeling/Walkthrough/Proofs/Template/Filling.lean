/-
# What a filled template is

A template is the parts between its tags and its tags, in turn (`interleaved_literals`). The tags are replaced
from the last to the first in the text itself, with the places that were found at the start. Because the tags
stand one behind the other, every such place is still right when it is used, and what comes out is the parts
between the tags and the values, in turn (`replaced_eq`): no value is searched for tags.

A tag calls for the value of a property by a number (`called?`), and stands for the text of that value (`Shows`).
The values are looked up first, from left to right, and the first tag that calls for no value is the one that is
reported (`substitute_exact`). A value can also be a number that is too long to be written.
-/

import Mathlib.Data.List.Forall2
import Walkthrough.Proofs.Number.Digits
import Walkthrough.Proofs.Template.Scanning

namespace Walkthrough
namespace Template

variable {cs : List Char} {found : List Tag} {values : List (List Char)} {n p : Nat} {t : Tag}

/-! ## Parts and values in turn -/

/-- Texts with values between them. -/
def interleaved : List (List Char) → List (List Char) → List Char
  | literal :: rest, value :: values => literal ++ (value ++ interleaved rest values)
  | literals, _ => literals.flatten

theorem InOrder.le (h : InOrder n p found) : p ≤ n := by
  induction found generalizing p with
  | nil => exact h
  | cons t rest ih => exact Nat.le_trans h.1 (Nat.le_trans h.2.1 (ih h.2.2))

theorem drop_eq_append {q : Nat} (h : p ≤ q) : cs.drop p = (cs.take q).drop p ++ cs.drop q := by
  rw [List.drop_take, ← Nat.add_sub_cancel' h, ← List.drop_drop, Nat.add_sub_cancel_left, List.take_append_drop]

/-- **The tags and the parts between them** are the whole text. -/
theorem interleaved_literals (h : InOrder cs.length p found) :
    interleaved (literals cs p found) (found.map (Tag.text cs)) = cs.drop p := by
  induction found generalizing p with
  | nil => exact List.flatten_singleton
  | cons t rest ih =>
    obtain ⟨hstart, hstop, hrest⟩ := h
    rw [literals, List.map_cons, interleaved, ih hrest, Tag.text, ← drop_eq_append hstop, ← drop_eq_append hstart]

/-- **Replacing from the last tag to the first** puts the values between the parts. -/
theorem replaced_eq (h : InOrder cs.length p found) (hlength : values.length = found.length) :
    replaced cs (found.zip values) = cs.take p ++ interleaved (literals cs p found) values := by
  induction found generalizing p values with
  | nil =>
    rw [List.eq_nil_of_length_eq_zero hlength]
    exact ((congrArg _ List.flatten_singleton).trans (List.take_append_drop p cs)).symm
  | cons t rest ih =>
    obtain ⟨hstart, hstop, hrest⟩ := h
    obtain ⟨value, values, rfl⟩ := List.exists_cons_of_length_eq_add_one hlength
    -- The tags behind are replaced already, and the text up to the end of this one is as it was.
    have hbehind :
        replaced cs (rest.zip values) = cs.take t.stop ++ interleaved (literals cs t.stop rest) values :=
      ih hrest (Nat.succ.inj hlength)
    have hplace : (cs.take t.stop).length = t.stop := by
      rw [List.length_take, Nat.min_eq_left hrest.le]
    have hbefore : (cs.take t.stop ++ interleaved (literals cs t.stop rest) values).take t.start =
        cs.take t.start := by
      rw [List.take_append_of_le_length (by rwa [hplace]), List.take_take, Nat.min_eq_left hstop]
    have hsplit : cs.take p ++ (cs.take t.start).drop p = cs.take t.start := by
      have htake := List.take_append_drop p (cs.take t.start)
      rwa [List.take_take, Nat.min_eq_left hstart] at htake
    calc replaced cs ((t :: rest).zip (value :: values))
        = splice (replaced cs (rest.zip values)) t.start t.stop value := rfl
      _ = cs.take t.start ++ value ++ interleaved (literals cs t.stop rest) values := by
          rw [hbehind, splice, hbefore, List.drop_left' hplace]
      _ = cs.take p ++ interleaved (literals cs p (t :: rest)) (value :: values) := by
          rw [literals, interleaved, ← List.append_assoc (cs.take p), hsplit, List.append_assoc]

/-! ## What a tag calls for -/

/-- The number between the marks of a tag: decimal digits of any script, blanks around them allowed. -/
def code? (inner : String) : Option Nat := Text.decimalValue? (Text.trim inner.toList)

/-- The value that a tag calls for: its number is not zero and belongs to a property. -/
def called? (lookup : Int → Option Value) (inner : String) : Option Value :=
  ((code? inner).filter (0 < ·)).bind fun n => lookup n

/-- A tag stands for the text of the value that it calls for. -/
def Shows (lookup : Int → Option Value) (inner : String) (text : List Char) : Prop :=
  ∃ v, called? lookup inner = some v ∧ shown v = .ok text

/-- A number between marks is not too long to be read. -/
def IsShort (inner : String) : Prop :=
  (code? inner).isSome = true → (Text.trim inner.toList).length ≤ Number.maxDigits

instance : DecidablePred IsShort := fun inner =>
  inferInstanceAs (Decidable ((code? inner).isSome = true → (Text.trim inner.toList).length ≤ Number.maxDigits))

variable {rich : Bool} {lookup : Int → Option Value} {template inner : String} {v : Value}
  {text : List Char}

theorem isDecimalText_code (inner : String) :
    Text.isDecimalText (Text.strip inner).toList = (code? inner).isSome := by
  rw [Text.toList_strip, ← Text.isSome_decimalValue?]
  rfl

theorem propertyId?_of_short (short : IsShort inner) :
    propertyId? inner = .ok (((code? inner).filter (0 < ·)).map Nat.cast) := by
  rw [propertyId?, isDecimalText_code]
  cases hcode : code? inner with
  | none => rfl
  | some n =>
    have hlength := short (Option.isSome_of_eq_some hcode)
    rw [Option.isSome_some, if_pos rfl, Text.strip, Number.readInt?_of_decimal hcode, if_pos hlength]
    rcases Nat.eq_zero_or_pos n with rfl | hpos
    · rfl
    · simp only [Int.natCast_pos, if_pos hpos, Option.filter_some, decide_eq_true hpos, if_true, Option.map_some]

theorem propertyId?_of_long (long : ¬IsShort inner) : propertyId? inner = .error (.usage .tooManyDigits) := by
  obtain ⟨hsome, hlong⟩ := not_forall.1 long
  obtain ⟨n, hcode⟩ := Option.isSome_iff_exists.1 hsome
  rw [propertyId?, isDecimalText_code, hsome, if_pos rfl, Text.strip, Number.readInt?_of_decimal hcode, if_neg hlong]

/-! ## What stands in place of a tag -/

/-- A tag with a number that can be read gives the value it calls for, or is reported. -/
theorem fill_of_short (short : IsShort t.inner) : fill rich lookup template t =
    match called? lookup t.inner with
    | some v => (shown v).map fun text => if rich then bold text else text
    | none => .error (.script (.unknownTagProperty t.inner template)) := by
  rw [fill, propertyId?_of_short short, called?]
  cases (code? t.inner).filter (0 < ·) with
  | none => rfl
  | some n =>
    rw [Option.map_some, Option.bind_some]
    dsimp only
    cases lookup (n : Int) with
    | none => rfl
    | some v =>
      dsimp only
      cases shown v <;> rfl

theorem fill_of_shows (short : IsShort t.inner) (h : Shows lookup t.inner text) :
    fill rich lookup template t = .ok (if rich then bold text else text) := by
  obtain ⟨v, hcalled, htext⟩ := h
  rw [fill_of_short short, hcalled]
  dsimp only
  rw [htext]
  rfl

theorem fill_of_unknown (short : IsShort t.inner) (h : called? lookup t.inner = none) :
    fill rich lookup template t = .error (.script (.unknownTagProperty t.inner template)) := by
  rw [fill_of_short short, h]

theorem fill_of_failure {e : Error} (short : IsShort t.inner) (hcalled : called? lookup t.inner = some v)
    (h : shown v = .error e) : fill rich lookup template t = .error e := by
  rw [fill_of_short short, hcalled]
  dsimp only
  rw [h]
  rfl

theorem fill_of_long (long : ¬IsShort t.inner) :
    fill rich lookup template t = .error (.failure (.usage .tooManyDigits)) := by
  rw [fill, propertyId?_of_long long]

/-- **A tag is filled in** exactly if its number can be read and it stands for a text. -/
theorem fill_eq_ok_iff {value : List Char} : fill rich lookup template t = .ok value ↔
    IsShort t.inner ∧ ∃ text, Shows lookup t.inner text ∧ value = if rich then bold text else text := by
  constructor
  · intro h
    by_cases short : IsShort t.inner
    · refine ⟨short, ?_⟩
      cases hcalled : called? lookup t.inner with
      | none =>
        rw [fill_of_unknown short hcalled] at h
        cases h
      | some v =>
        cases htext : shown v with
        | error e =>
          rw [fill_of_failure short hcalled htext] at h
          cases h
        | ok text =>
          rw [fill_of_shows short ⟨v, hcalled, htext⟩] at h
          exact ⟨text, ⟨v, hcalled, htext⟩, (Except.ok.inj h).symm⟩
    · rw [fill_of_long short] at h
      cases h
  · rintro ⟨short, text, htext, rfl⟩
    exact fill_of_shows short htext

/-! ## Filling in -/

section MapM

variable {ε α β : Type} {f : α → Except ε β} {e : ε} {a : α} {as before after : List α} {bs : List β}

theorem map_eq_ok_iff {γ : Type} {x : Except ε α} {g : α → γ} {c : γ} :
    x.map g = .ok c ↔ ∃ a, x = .ok a ∧ g a = c := by
  cases x with
  | error e => exact ⟨fun h => (nomatch h), fun ⟨_, h, _⟩ => nomatch h⟩
  | ok a => exact ⟨fun h => ⟨a, rfl, Except.ok.inj h⟩, fun ⟨_, h, hc⟩ => by cases h; exact congrArg _ hc⟩

theorem mapM_eq_ok_iff : as.mapM f = .ok bs ↔ List.Forall₂ (fun a b => f a = .ok b) as bs := by
  induction as generalizing bs with
  | nil =>
    rw [List.mapM_nil, List.forall₂_nil_left_iff]
    exact ⟨fun h => by cases h; rfl, fun h => h ▸ rfl⟩
  | cons a as ih =>
    rw [List.mapM_cons, List.forall₂_cons_left_iff]
    simp only [← ih]
    constructor
    · intro h
      cases hb : f a with
      | error e =>
        rw [hb] at h
        cases h
      | ok b =>
        cases hrest : as.mapM f with
        | error e =>
          rw [hb, hrest] at h
          cases h
        | ok rest =>
          rw [hb, hrest] at h
          cases h
          exact ⟨b, rest, rfl, rfl, rfl⟩
    · rintro ⟨b, rest, hb, hrest, rfl⟩
      rw [hb, hrest]
      rfl

theorem exists_mapM_eq_ok_iff : (∃ bs, as.mapM f = .ok bs) ↔ ∀ a ∈ as, ∃ b, f a = .ok b := by
  simp only [mapM_eq_ok_iff]
  induction as with
  | nil => exact ⟨fun _ a ha => absurd ha List.not_mem_nil, fun _ => ⟨[], .nil⟩⟩
  | cons a as ih =>
    rw [List.forall_mem_cons, ← ih]
    constructor
    · rintro ⟨_, h⟩
      cases h with
      | cons hb hbs => exact ⟨⟨_, hb⟩, _, hbs⟩
    · rintro ⟨⟨b, hb⟩, bs, hbs⟩
      exact ⟨b :: bs, .cons hb hbs⟩

/-- The first failure is the failure of the whole. -/
theorem mapM_eq_error (hbefore : ∀ x ∈ before, ∃ b, f x = .ok b) (h : f a = .error e) :
    (before ++ a :: after).mapM f = .error e := by
  induction before with
  | nil =>
    rw [List.nil_append, List.mapM_cons, h]
    rfl
  | cons x before ih =>
    obtain ⟨⟨b, hb⟩, hrest⟩ := List.forall_mem_cons.1 hbefore
    rw [List.cons_append, List.mapM_cons, hb, ih hrest]
    rfl

end MapM

/-- **Filling in** gives the parts between the tags and the values, in turn. -/
theorem substitute_eq (marks : Marks) (rich : Bool) (lookup : Int → Option Value) (template : String) :
    substitute marks rich lookup template =
      ((tags marks template).mapM (fill rich lookup template)).map fun values =>
        let parsed := interleaved (literals template.toList 0 (tags marks template)) values
        String.ofList (if rich then Text.breakLines parsed else parsed) := by
  rw [substitute]
  cases hvalues : (tags marks template).mapM (fill rich lookup template) with
  | error e => rfl
  | ok values =>
    have hlength := (mapM_eq_ok_iff.1 hvalues).length_eq
    have hreplaced := replaced_eq (inOrder_tags marks template) hlength.symm
    rw [List.take_zero, List.nil_append] at hreplaced
    rw [Except.map, ← hreplaced]
    rfl

/-- There is a result exactly if every tag, by a number that can be read, stands for a text. -/
theorem exists_substitute_eq_ok_iff (marks : Marks) (rich : Bool) (lookup : Int → Option Value) (template : String) :
    (∃ result, substitute marks rich lookup template = .ok result) ↔
      ∀ t ∈ tags marks template, IsShort t.inner ∧ ∃ text, Shows lookup t.inner text := by
  rw [substitute_eq]
  simp only [map_eq_ok_iff]
  constructor
  · rintro ⟨_, values, hvalues, -⟩ t ht
    obtain ⟨value, hvalue⟩ := exists_mapM_eq_ok_iff.1 ⟨values, hvalues⟩ t ht
    obtain ⟨short, text, htext, -⟩ := fill_eq_ok_iff.1 hvalue
    exact ⟨short, text, htext⟩
  · intro h
    have hfills : ∀ t ∈ tags marks template, ∃ value, fill rich lookup template t = .ok value := by
      intro t ht
      obtain ⟨short, text, htext⟩ := h t ht
      exact ⟨_, fill_of_shows short htext⟩
    obtain ⟨values, hvalues⟩ := exists_mapM_eq_ok_iff.2 hfills
    exact ⟨_, values, hvalues, rfl⟩

/-! ## Plain text -/

/-- **A template is filled in at once or not at all.** Let every number between the marks be short enough to be
read. The template is the parts between its tags and its tags, in turn. If every tag stands for a text, the
result is the same parts and these texts, in turn, whatever the texts contain. Otherwise there is no result, but the
error of the first tag that does not: it is reported, with its inner text and the template, if it calls for no
value, and what keeps its value from being written is passed on if it calls for one. -/
theorem substitute_exact (marks : Marks) (lookup : Int → Option Value) (template : String)
    (short : ∀ t ∈ tags marks template, IsShort t.inner) :
    let cs := template.toList
    let found := tags marks template
    interleaved (literals cs 0 found) (found.map (Tag.text cs)) = cs ∧
    (∀ texts, List.Forall₂ (fun t text => Shows lookup t.inner text) found texts →
      substitute marks false lookup template = .ok (String.ofList (interleaved (literals cs 0 found) texts))) ∧
    ((∃ result, substitute marks false lookup template = .ok result) ↔
      ∀ t ∈ found, ∃ text, Shows lookup t.inner text) ∧
    ∀ before t after, found = before ++ t :: after → (∀ u ∈ before, ∃ text, Shows lookup u.inner text) →
      (called? lookup t.inner = none →
        substitute marks false lookup template = .error (.script (.unknownTagProperty t.inner template))) ∧
      ∀ v e, called? lookup t.inner = some v → shown v = .error e →
        substitute marks false lookup template = .error e := by
  intro cs found
  have hfills : ∀ t ∈ found, ∀ text, Shows lookup t.inner text → fill false lookup template t = .ok text :=
    fun t ht text htext => fill_of_shows (short t ht) htext
  refine ⟨interleaved_literals (inOrder_tags marks template), fun texts htexts => ?_, ?_,
    fun before t after hfound hbefore => ?_⟩
  · have hmapM : found.mapM (fill false lookup template) = .ok texts :=
      mapM_eq_ok_iff.2 (((List.forall₂_and_left _ _).2 ⟨hfills, htexts⟩).imp fun t text h => h.1 text h.2)
    rw [substitute_eq, hmapM]
    rfl
  · rw [exists_substitute_eq_ok_iff]
    exact forall₂_congr fun t ht => and_iff_right (short t ht)
  · have hthere : t ∈ found := hfound ▸ List.mem_append_right _ List.mem_cons_self
    have hfails : ∀ e, fill false lookup template t = .error e →
        substitute marks false lookup template = .error e := by
      intro e he
      have hmapM : found.mapM (fill false lookup template) = .error e := by
        rw [hfound]
        refine mapM_eq_error (fun u hu => ?_) he
        obtain ⟨text, htext⟩ := hbefore u hu
        exact ⟨text, hfills u (hfound ▸ List.mem_append_left _ hu) text htext⟩
      rw [substitute_eq, hmapM]
      rfl
    exact ⟨fun h => hfails _ (fill_of_unknown (short t hthere) h),
      fun v e hcalled h => hfails e (fill_of_failure (short t hthere) hcalled h)⟩

/-- A value that looks like a tag stays as it is, and the first tag without a value is reported. -/
theorem substitute_marks :
    let lookup : Int → Option Value := fun n =>
      if n = 1 then some (.text "<2>") else if n = 2 then some (.bool true) else none
    substitute ⟨"<", ">"⟩ false lookup "a< 1 >b<2>c" = .ok "a<2>btruec" ∧
      substitute ⟨"<", ">"⟩ false lookup "<2><x><3>" = .error (.script (.unknownTagProperty "x" "<2><x><3>")) := by
  intro lookup
  have hfound : tags ⟨"<", ">"⟩ "a< 1 >b<2>c" = [(1, 6, " 1 "), (7, 10, "2")] := by decide
  have hfound' : tags ⟨"<", ">"⟩ "<2><x><3>" = [(0, 3, "2"), (3, 6, "x"), (6, 9, "3")] := by decide
  obtain ⟨-, hok, -⟩ := substitute_exact ⟨"<", ">"⟩ lookup "a< 1 >b<2>c" (by decide)
  obtain ⟨-, -, -, hfails⟩ := substitute_exact ⟨"<", ">"⟩ lookup "<2><x><3>" (by decide)
  rw [hfound] at hok
  have hone : Shows lookup " 1 " "<2>".toList := ⟨.text "<2>", rfl, rfl⟩
  have htwo : Shows lookup "2" "true".toList := ⟨.bool true, rfl, rfl⟩
  refine ⟨hok ["<2>".toList, "true".toList] (.cons hone (.cons htwo .nil)), ?_⟩
  refine (hfails [(0, 3, "2")] (3, 6, "x") [(6, 9, "3")] hfound' ?_).1 rfl
  exact List.forall_mem_singleton.2 ⟨_, htwo⟩

/-- **A tag that calls for a value need not be filled in**: a number with too many digits has no text, and what comes
of it is not the error about a tag either. -/
theorem myriads_not_filled :
    let lookup : Int → Option Value := fun n => if n = 1 then some (.int Number.myriads) else none
    (∀ t ∈ tags ⟨"<", ">"⟩ "<1>", IsShort t.inner ∧ (called? lookup t.inner).isSome = true) ∧
      (∀ result, substitute ⟨"<", ">"⟩ false lookup "<1>" ≠ .ok result) ∧
      ∀ inner, substitute ⟨"<", ">"⟩ false lookup "<1>" ≠ .error (.script (.unknownTagProperty inner "<1>")) := by
  intro lookup
  have hfails : (substitute ⟨"<", ">"⟩ false lookup "<1>").mapError Error.isScriptError = .error false := by
    decide +kernel
  refine ⟨by decide +kernel, fun result h => ?_, fun inner h => ?_⟩
  all_goals
    rw [h] at hfails
    cases hfails

end Template
end Walkthrough
