/-
# Numbers and plain quotes

Before an expression is read, its typographic quotes are made plain. What is read does not change as long as they
have no part in it: no mark but a double quote is found elsewhere (`afterMark?_plainQuotes`), and a number is the
same, since neither quotes of the one kind nor those of the other belong to it (`number?_plainQuotes`).
-/

import Mathlib.Data.List.Basic
import Walkthrough.Condition.Predicate
import Walkthrough.Proofs.Text.Search

namespace Walkthrough
namespace Condition

open Predicate (plainQuotes)

variable {c d : Char} {cs rest : List Char}

/-- The typographic quotes. -/
def isTypographic (c : Char) : Bool := c == '“' || c == '”'

/-- A character with a plain quote for a typographic one. -/
def plainChar (c : Char) : Char := if isTypographic c then '"' else c

theorem plainQuotes_eq (cs : List Char) : plainQuotes cs = cs.map plainChar := rfl

@[simp] theorem plainQuotes_nil : plainQuotes [] = [] := rfl

@[simp] theorem plainQuotes_cons (c : Char) (cs : List Char) :
    plainQuotes (c :: cs) = plainChar c :: plainQuotes cs := rfl

@[simp] theorem plainQuotes_append (cs ds : List Char) :
    plainQuotes (cs ++ ds) = plainQuotes cs ++ plainQuotes ds := List.map_append

theorem isTypographic_iff : isTypographic c = true ↔ c = '“' ∨ c = '”' := by
  rw [isTypographic, Bool.or_eq_true, beq_iff_eq, beq_iff_eq]

/-- What does not tell the quotes apart does not tell a character from its plain form. -/
theorem plainChar_congr {α : Type} (f : Char → α) (hleft : f '“' = f '"') (hright : f '”' = f '"') (c : Char) :
    f (plainChar c) = f c := by
  unfold plainChar
  split
  · next h =>
    rcases isTypographic_iff.1 h with rfl | rfl
    · exact hleft.symm
    · exact hright.symm
  · rfl

theorem plainChar_of_not (h : isTypographic c = false) : plainChar c = c :=
  if_neg (by rw [h]; exact Bool.false_ne_true)

/-- A character of a class without typographic quotes is none. -/
theorem isTypographic_of_class {p : Char → Bool} (hleft : p '“' = false) (hright : p '”' = false) (h : p c = true) :
    isTypographic c = false := by
  refine Bool.eq_false_iff.2 fun htypographic => ?_
  rcases isTypographic_iff.1 htypographic with rfl | rfl
  · rw [h] at hleft
    cases hleft
  · rw [h] at hright
    cases hright

theorem plainChar_of_class {p : Char → Bool} (hleft : p '“' = false) (hright : p '”' = false) (h : p c = true) :
    plainChar c = c :=
  plainChar_of_not (isTypographic_of_class hleft hright h)

/-- Other characters are not made plain quotes. -/
theorem plainChar_eq_iff (hplain : d ≠ '"') (htypographic : isTypographic d = false) : plainChar c = d ↔ c = d := by
  unfold plainChar
  split
  · next h =>
    refine ⟨fun heq => absurd heq.symm hplain, ?_⟩
    rintro rfl
    rw [h] at htypographic
    cases htypographic
  · rfl

/-- What starts with another character once the quotes are plain did so before. -/
theorem exists_of_plainQuotes_eq_cons {ds : List Char} (h : plainQuotes cs = d :: ds) (hplain : d ≠ '"')
    (htypographic : isTypographic d = false) : ∃ rest, cs = d :: rest ∧ plainQuotes rest = ds := by
  obtain ⟨c, rest, rfl, hc, hrest⟩ := List.map_eq_cons_iff.1 h
  obtain rfl := (plainChar_eq_iff hplain htypographic).1 hc
  exact ⟨rest, rfl, hrest⟩

theorem plainQuotes_ne_cons (hplain : d ≠ '"') (htypographic : isTypographic d = false)
    (h : ∀ rest, cs = d :: rest → False) : ∀ rest, plainQuotes cs = d :: rest → False := by
  intro ds hds
  obtain ⟨rest, hcs, -⟩ := exists_of_plainQuotes_eq_cons hds hplain htypographic
  exact h rest hcs

theorem plainQuotes_of_forall (h : ∀ c ∈ cs, isTypographic c = false) : plainQuotes cs = cs := by
  rw [plainQuotes_eq]
  exact (List.map_congr_left fun c hc => plainChar_of_not (h c hc)).trans (List.map_id cs)

/-! ## Marks -/

/-- A mark of characters that are no double quotes of any kind. -/
def IsUnquoted (mark : List Char) : Prop := ∀ c ∈ mark, c ≠ '"' ∧ isTypographic c = false

instance (mark : List Char) : Decidable (IsUnquoted mark) :=
  List.decidableBAll (fun c => c ≠ '"' ∧ isTypographic c = false) mark

theorem afterMark?_plainQuotes {mark : List Char} (h : IsUnquoted mark) (cs : List Char) :
    Text.afterMark? mark (plainQuotes cs) = (Text.afterMark? mark cs).map plainQuotes := by
  induction mark generalizing cs with
  | nil => rfl
  | cons m mark ih =>
    obtain ⟨hm, hmark⟩ := List.forall_mem_cons.1 h
    cases cs with
    | nil => rfl
    | cons c cs =>
      have hsame : m = plainChar c ↔ m = c := by rw [eq_comm, plainChar_eq_iff hm.1 hm.2, eq_comm]
      simp only [plainQuotes_cons, Text.afterMark?, hsame]
      split
      · exact ih hmark cs
      · rfl

theorem digitRun?_plainQuotes {p : Char → Bool} (hleft : p '“' = false) (hright : p '”' = false)
    (hquote : p '"' = false) (due : Bool) (cs : List Char) : digitRun? p due (plainQuotes cs) =
      (digitRun? p due cs).map fun (run, rest) => (run, plainQuotes rest) := by
  induction cs generalizing due with
  | nil =>
    cases due <;> rfl
  | cons c cs ih =>
    have hp : p (plainChar c) = p c := plainChar_congr p (hleft.trans hquote.symm) (hright.trans hquote.symm) c
    have hscore : (plainChar c == '_') = (c == '_') := plainChar_congr (· == '_') rfl rfl c
    rw [plainQuotes_cons, digitRun?, digitRun?, hp, hscore]
    split
    · next hc =>
      rw [ih, plainChar_of_class hleft hright hc]
      cases digitRun? p false cs <;> rfl
    · split
      · rfl
      · split
        · exact ih true
        · rfl

/-! ## Numbers -/

@[simp] theorem isDigit_plainChar (c : Char) : (plainChar c).isDigit = c.isDigit := plainChar_congr _ rfl rfl c

theorem plainChar_of_isDigit (h : c.isDigit = true) : plainChar c = c := plainChar_of_class rfl rfl h

/-- Whether the next character is a digit. -/
theorem startsWithDigit_plainQuotes (cs : List Char) :
    ((plainQuotes cs).head?.map Char.isDigit).getD false = (cs.head?.map Char.isDigit).getD false := by
  cases cs with
  | nil => rfl
  | cons c cs => exact isDigit_plainChar c

theorem exponentRun?_plainQuotes (cs : List Char) : exponentRun? (plainQuotes cs) =
    (exponentRun? cs).map (Option.map fun (run, rest) => (run, plainQuotes rest)) := by
  cases cs with
  | nil => rfl
  | cons e more =>
    have hmark : (plainChar e == 'e' || plainChar e == 'E') = (e == 'e' || e == 'E') :=
      plainChar_congr (fun c => c == 'e' || c == 'E') rfl rfl e
    unfold exponentRun?
    simp only [plainQuotes_cons, hmark]
    split
    · next he =>
      rw [plainChar_of_class (p := fun c => c == 'e' || c == 'E') rfl rfl he]
      cases more with
      | nil => rfl
      | cons s more =>
        have hsign : (plainChar s == '+' || plainChar s == '-') = (s == '+' || s == '-') :=
          plainChar_congr (fun c => c == '+' || c == '-') rfl rfl s
        cases more with
        | nil =>
          simp only [plainQuotes_cons, plainQuotes_nil, hsign, isDigit_plainChar]
          split
          · rfl
          · split
            · next hs => rw [plainChar_of_isDigit hs]; rfl
            · rfl
        | cons d more =>
          have hrun := digitRun?_plainQuotes (p := Char.isDigit) rfl rfl rfl true
          simp only [plainQuotes_cons, hsign, isDigit_plainChar, List.tail_cons]
          rw [← plainQuotes_cons, ← plainQuotes_cons, hrun, hrun]
          split
          · next hs =>
            rw [plainChar_of_class (p := fun c => c == '+' || c == '-') rfl rfl hs]
            split
            · cases digitRun? Char.isDigit true (d :: more) <;> rfl
            · rfl
          · split
            · cases digitRun? Char.isDigit true (s :: d :: more) <;> rfl
            · rfl
    · rfl

theorem isUnquoted_keywordsAfterNumber : ∀ mark ∈ keywordsAfterNumber, IsUnquoted mark := by decide

/-- Where a number can end, it can also end once the quotes are plain. -/
theorem canEndNumber_plainQuotes (h : canEndNumber cs = true) : canEndNumber (plainQuotes cs) = true := by
  cases cs with
  | nil => rfl
  | cons c cs =>
    have hkeywords : (keywordsAfterNumber.any fun k => (Text.afterMark? k (plainQuotes (c :: cs))).isSome) =
        keywordsAfterNumber.any fun k => (Text.afterMark? k (c :: cs)).isSome := by
      rw [Bool.eq_iff_iff, List.any_eq_true, List.any_eq_true]
      refine exists_congr fun k => and_congr_right fun hk => ?_
      rw [afterMark?_plainQuotes (isUnquoted_keywordsAfterNumber k hk), Option.isSome_map]
    rw [plainQuotes_cons] at hkeywords ⊢
    rw [canEndNumber, Bool.or_eq_true] at h ⊢
    rw [hkeywords]
    refine h.imp id fun hsign => ?_
    rwa [plainChar_of_class (p := fun c => !(c.isAlphanum || c == '_' || decide (c.toNat ≥ 128))) rfl rfl hsign]

variable {n : Constant}

theorem endNumber?_plainQuotes {c : Constant} (h : endNumber? c cs = some (n, rest)) :
    endNumber? c (plainQuotes cs) = some (n, plainQuotes rest) := by
  obtain ⟨hend, h⟩ := Option.ite_none_right_eq_some.1 h
  cases h
  exact if_pos (canEndNumber_plainQuotes hend)

theorem endFloat?_plainQuotes {numeral : List Char} (h : endFloat? numeral cs = some (n, rest)) :
    endFloat? numeral (plainQuotes cs) = some (n, plainQuotes rest) := by
  unfold endFloat? at h ⊢
  obtain ⟨x, hx, h⟩ := Option.bind_eq_some_iff.1 h
  rw [hx, Option.bind_eq_bind, Option.bind_some]
  split at h
  · exact endNumber?_plainQuotes h
  · exact endNumber?_plainQuotes h
  · next hsmall hgreat =>
    split
    · next heq => exact (plainQuotes_ne_cons (by decide) rfl hsmall _ heq).elim
    · next heq => exact (plainQuotes_ne_cons (by decide) rfl hgreat _ heq).elim
    · exact endNumber?_plainQuotes h

/-- The digits after the point of a float, and the rest. -/
def fraction? (cs : List Char) : Option (List Char × List Char) :=
  if (cs.head?.map Char.isDigit).getD false then digitRun? Char.isDigit true cs else some ([], cs)

/-- A float whose numeral may go on with an exponent. -/
def scaledFloat? (numeral cs : List Char) : Option (Constant × List Char) :=
  (exponentRun? cs).bind fun
    | some (exponent, rest) => endFloat? (numeral ++ exponent) rest
    | none => endFloat? numeral cs

theorem fractionNumber?_eq (whole cs : List Char) : fractionNumber? whole cs =
    (fraction? cs).bind fun (fraction, rest) => scaledFloat? (whole ++ '.' :: fraction) rest := by
  unfold fractionNumber? fraction?
  split <;> rfl

theorem fraction?_plainQuotes (cs : List Char) :
    fraction? (plainQuotes cs) = (fraction? cs).map fun (run, rest) => (run, plainQuotes rest) := by
  unfold fraction?
  rw [startsWithDigit_plainQuotes, digitRun?_plainQuotes rfl rfl rfl]
  split <;> rfl

theorem scaledFloat?_plainQuotes {numeral : List Char} (h : scaledFloat? numeral cs = some (n, rest)) :
    scaledFloat? numeral (plainQuotes cs) = some (n, plainQuotes rest) := by
  unfold scaledFloat? at h ⊢
  obtain ⟨exponent, hexponent, h⟩ := Option.bind_eq_some_iff.1 h
  rw [exponentRun?_plainQuotes, hexponent]
  cases exponent with
  | none => exact endFloat?_plainQuotes h
  | some p => exact endFloat?_plainQuotes h

theorem fractionNumber?_plainQuotes {whole : List Char} (h : fractionNumber? whole cs = some (n, rest)) :
    fractionNumber? whole (plainQuotes cs) = some (n, plainQuotes rest) := by
  rw [fractionNumber?_eq] at h ⊢
  obtain ⟨⟨fraction, more⟩, hfraction, h⟩ := Option.bind_eq_some_iff.1 h
  rw [fraction?_plainQuotes, hfraction]
  exact scaledFloat?_plainQuotes h

theorem decimalNumber?_plainQuotes (h : decimalNumber? cs = some (n, rest)) :
    decimalNumber? (plainQuotes cs) = some (n, plainQuotes rest) := by
  unfold decimalNumber? at h ⊢
  obtain ⟨⟨whole, more⟩, hwhole, h⟩ := Option.bind_eq_some_iff.1 h
  rw [digitRun?_plainQuotes rfl rfl rfl, hwhole, Option.map_some, Option.bind_eq_bind, Option.bind_some]
  dsimp only at h ⊢
  split at h
  · exact fractionNumber?_plainQuotes h
  · exact endFloat?_plainQuotes h
  · exact endFloat?_plainQuotes h
  · next hpoint hsmall hgreat =>
    obtain ⟨exponent, hexponent, h⟩ := Option.bind_eq_some_iff.1 h
    split
    · next heq => exact (plainQuotes_ne_cons (by decide) rfl hpoint _ heq).elim
    · next heq => exact (plainQuotes_ne_cons (by decide) rfl hsmall _ heq).elim
    · next heq => exact (plainQuotes_ne_cons (by decide) rfl hgreat _ heq).elim
    · rw [exponentRun?_plainQuotes, hexponent, Option.map_some, Option.bind_eq_bind, Option.bind_some]
      cases exponent with
      | some p => exact endFloat?_plainQuotes h
      | none =>
        obtain ⟨k, hk, h⟩ := Option.bind_eq_some_iff.1 h
        obtain ⟨hzero, h⟩ := Option.ite_none_left_eq_some.1 h
        dsimp only [Option.map_none]
        rw [hk]
        exact (if_neg hzero).trans (endNumber?_plainQuotes h)

/-- A text after an underscore, if it starts with one. -/
def afterScore : List Char → List Char
  | '_' :: rest => rest
  | cs => cs

theorem afterScore_plainQuotes (cs : List Char) : afterScore (plainQuotes cs) = plainQuotes (afterScore cs) := by
  unfold afterScore
  split
  · next heq =>
    obtain ⟨r, rfl, hr⟩ := exists_of_plainQuotes_eq_cons heq (by decide) rfl
    exact hr.symm
  · next hne =>
    split
    · exact (hne _ rfl).elim
    · rfl

theorem markedNumber?_eq (base : Nat) (cs : List Char) : markedNumber? base cs =
    (digitRun? (fun c => (Number.digitBelow? base c).isSome) true (afterScore cs)).bind fun (run, rest) =>
      (Number.natIn? base run).bind fun k =>
        if (rest.head?.map Char.isDigit).getD false then none else endNumber? (.int k) rest := rfl

theorem markedNumber?_plainQuotes {base : Nat} (h : markedNumber? base cs = some (n, rest)) :
    markedNumber? base (plainQuotes cs) = some (n, plainQuotes rest) := by
  rw [markedNumber?_eq] at h ⊢
  obtain ⟨⟨run, more⟩, hrun, h⟩ := Option.bind_eq_some_iff.1 h
  obtain ⟨k, hk, h⟩ := Option.bind_eq_some_iff.1 h
  obtain ⟨hdigit, h⟩ := Option.ite_none_left_eq_some.1 h
  rw [afterScore_plainQuotes, digitRun?_plainQuotes rfl rfl rfl, hrun, Option.map_some, Option.bind_some]
  dsimp only at h hk hdigit ⊢
  rw [hk, Option.bind_some, startsWithDigit_plainQuotes, if_neg hdigit]
  exact endNumber?_plainQuotes h

/-- **A number is read** also once the quotes behind it are plain. -/
theorem number?_plainQuotes (h : number? cs = some (n, rest)) :
    number? (plainQuotes cs) = some (n, plainQuotes rest) := by
  unfold number? at h
  split at h
  · exact fractionNumber?_plainQuotes h
  · next m more =>
    have hbase : Number.markBase? (plainChar m) = Number.markBase? m := plainChar_congr Number.markBase? rfl rfl m
    rw [plainQuotes_cons, plainQuotes_cons, show plainChar '0' = '0' from rfl, number?, hbase]
    split at h
    · exact markedNumber?_plainQuotes h
    · exact decimalNumber?_plainQuotes h
  · next hpoint hzero =>
    unfold number?
    split
    · next heq => exact (plainQuotes_ne_cons (by decide) rfl hpoint _ heq).elim
    · next m more heq =>
      obtain ⟨r, rfl, hr⟩ := exists_of_plainQuotes_eq_cons heq (by decide) rfl
      obtain ⟨c, r, rfl, -⟩ := List.map_eq_cons_iff.1 hr
      exact (hzero _ _ rfl).elim
    · exact decimalNumber?_plainQuotes h

end Condition
end Walkthrough
