/-
# Decimal numerals

A number is read back from its decimal digits: by the reader of a run of digits (`takeDigits_append`), by
the reader of numerals (`readInt?_toString`), and with zeros in front, of which `padded` writes as many as
are missing (`ofDigitChars_padded`). What is read from a numeral, in whatever way it is spelt, is short enough
to be written (`readInt?_lt`).
-/

import Walkthrough.Number.Numeral
import Walkthrough.Number.Shortest
import Walkthrough.Proofs.Text.Trimming

namespace Walkthrough

/-! ## Digits -/

namespace Text

variable {c : Char}

theorem toNat_of_isDigit (h : c.isDigit = true) : 48 ≤ c.toNat ∧ c.toNat ≤ 57 :=
  Char.isDigit_iff_toNat.1 h

theorem isBlankChar_of_isDigit (h : c.isDigit = true) : isBlankChar c = false := by
  have := toNat_of_isDigit h
  simp only [isBlankChar, Bool.or_eq_false_iff, Bool.and_eq_false_iff, decide_eq_false_iff_not,
    beq_eq_false_iff_ne]
  omega

theorem isNumeralBlank_of_not_isBlankChar (h : isBlankChar c = false) : isNumeralBlank c = false := by
  simp only [isBlankChar, Bool.or_eq_false_iff, Bool.and_eq_false_iff, decide_eq_false_iff_not,
    beq_eq_false_iff_ne] at h
  simp only [isNumeralBlank, Bool.or_eq_false_iff, Bool.and_eq_false_iff, decide_eq_false_iff_not,
    beq_eq_false_iff_ne]
  refine ⟨?_, by omega⟩
  rintro rfl
  revert h
  decide

/-- A digit is no other character that has a meaning of its own. -/
theorem ne_of_isDigit {d : Char} (h : c.isDigit = true) (hd : d.isDigit = false) : c ≠ d := by
  rintro rfl
  rw [h] at hd
  cases hd

end Text

namespace Number

open Text (ne_of_isDigit)

variable {n : Nat} {ds rest : List Char}

theorem isDigit_toDigits {c : Char} (h : c ∈ Nat.toDigits 10 n) : c.isDigit = true :=
  Nat.isDigit_of_mem_toDigits (by decide) (by decide) h

/-- The first digit of a number is not zero, unless it is the only one. -/
theorem head?_toDigits (h : (Nat.toDigits 10 n).head? = some '0') : n = 0 := by
  induction n using Nat.strongRecOn with
  | _ n ih =>
    rcases Nat.lt_or_ge n 10 with hn | hn
    · rw [Nat.toDigits_of_lt_base hn] at h
      have hzero : n.digitChar.toNat = '0'.toNat := congrArg Char.toNat (Option.some.inj h)
      rw [Nat.toNat_digitChar_of_lt_ten hn] at hzero
      exact Nat.add_eq_left.1 hzero
    · rw [Nat.toDigits_of_base_le (by decide) hn] at h
      obtain ⟨c, cs, hcs⟩ := List.exists_cons_of_ne_nil (Nat.toDigits_ne_nil (b := 10) (n := n / 10))
      rw [hcs] at h
      have := ih (n / 10) (by omega) (by rw [hcs]; exact h)
      omega

theorem length_toDigits_le (h : n < 10 ^ maxDigits) : (Nat.toDigits 10 n).length ≤ maxDigits :=
  (Nat.length_toDigits_le_iff (by decide) (by decide)).2 h

/-! ## Runs of digits -/

/-- **A run of digits** is taken up to the first character that is no digit. -/
theorem takeDigits_append (digits : ∀ c ∈ ds, c.isDigit = true)
    (stop : ∀ c, rest.head? = some c → c.isDigit = false) (value count : Nat) :
    takeDigits value count (ds ++ rest) =
      (Nat.ofDigitChars 10 ds value, count + ds.length, rest) := by
  induction ds generalizing value count with
  | nil =>
    cases rest with
    | nil => rfl
    | cons c rest =>
      rw [List.nil_append, takeDigits, stop c rfl]
      rfl
  | cons c ds ih =>
    rw [List.cons_append, takeDigits, digits c List.mem_cons_self,
      ih fun x hx => digits x (List.mem_cons_of_mem _ hx)]
    rw [if_pos rfl, Nat.ofDigitChars_cons, Nat.mul_comm value, List.length_cons, Nat.add_assoc,
      Nat.add_comm 1]
    rfl

theorem digitBelow?_ten {c : Char} (h : c.isDigit = true) : digitBelow? 10 c = some (c.toNat - 48) := by
  have hc := Text.toNat_of_isDigit h
  have hle : '0' ≤ c ∧ c ≤ '9' := by
    simp only [Char.le_def, UInt32.le_iff_toNat_le]
    exact hc
  rw [digitBelow?, digitValue?, if_pos hle, Option.filter, if_pos (by simp; omega)]

theorem digitsFrom?_of_digits (digits : ∀ c ∈ ds, c.isDigit = true) (value count : Nat)
    (some_digit : 0 < count + ds.length) :
    digitsFrom? 10 value count true ds = some (Nat.ofDigitChars 10 ds value, count + ds.length) := by
  induction ds generalizing value count with
  | nil =>
    have hcount : 0 < count := some_digit
    rw [digitsFrom?, decide_eq_true hcount]
    rfl
  | cons c ds ih =>
    have hc := digits c List.mem_cons_self
    have hscore : (c == '_') = false := beq_eq_false_iff_ne.2 (ne_of_isDigit hc rfl)
    rw [digitsFrom?, hscore, digitBelow?_ten hc, Nat.ofDigitChars_cons, Nat.mul_comm 10, List.length_cons,
      Nat.add_comm ds.length, ← Nat.add_assoc]
    exact ih (fun x hx => digits x (List.mem_cons_of_mem _ hx)) _ _ (by omega)

/-- A run of digits is read unless it is too long. -/
theorem natIn?_of_digits (digits : ∀ c ∈ ds, c.isDigit = true) (nonempty : ds ≠ []) :
    natIn? 10 ds = if ds.length ≤ maxDigits then some (Nat.ofDigitChars 10 ds 0) else none := by
  have hpos : 0 < 0 + ds.length := by
    rw [Nat.zero_add]
    exact List.length_pos_iff.2 nonempty
  rw [natIn?, digitsFrom?_of_digits digits 0 0 hpos, Nat.zero_add]
  dsimp only
  rcases Nat.lt_or_ge maxDigits ds.length with hlong | hshort
  · rw [decide_eq_true hlong, if_neg (Nat.not_le.2 hlong)]
    rfl
  · rw [decide_eq_false (Nat.not_lt.2 hshort), if_pos hshort]
    rfl

theorem natIn?_toDigits (h : n < 10 ^ maxDigits) : natIn? 10 (Nat.toDigits 10 n) = some n := by
  rw [natIn?_of_digits (fun _ => isDigit_toDigits) Nat.toDigits_ne_nil, if_pos (length_toDigits_le h),
    Nat.ofDigitChars_ten_toDigits]

/-! ## Integers -/

/-- The text of an integer: a sign if it is negative, and its digits. -/
theorem toList_toString (n : Int) :
    (toString n).toList = (if n < 0 then ['-'] else []) ++ Nat.toDigits 10 n.natAbs := by
  rw [Int.toString_eq_repr]
  cases n with
  | ofNat m => exact Nat.toList_repr
  | negSucc m =>
    rw [if_pos (Int.negSucc_lt_zero m)]
    exact String.toList_append.trans (congrArg ('-' :: ·) Nat.toList_repr)

/-- A numeral that holds no character beyond the Latin ones and no blank is itself. -/
theorem numeral_of_forall {cs : List Char} (latin : ∀ c ∈ cs, c.toNat < 128)
    (filled : ∀ c ∈ cs, Text.isBlankChar c = false) : numeral cs = cs := by
  have hall : (cs.all fun c => decide (c.toNat < 128)) = true :=
    List.all_eq_true.2 fun c hc => decide_eq_true (latin c hc)
  rw [numeral, hall]
  exact Text.trimWith_of_forall fun c hc => Text.isNumeralBlank_of_not_isBlankChar (filled c hc)

theorem mem_toString {n : Int} {c : Char} (h : c ∈ (toString n).toList) :
    c = '-' ∨ c.isDigit = true := by
  rw [toList_toString] at h
  rcases List.mem_append.1 h with h | h
  · split at h
    · exact .inl (List.mem_singleton.1 h)
    · cases h
  · exact .inr (isDigit_toDigits h)

theorem isBlankChar_of_mem_toString {n : Int} {c : Char} (h : c ∈ (toString n).toList) :
    Text.isBlankChar c = false := by
  rcases mem_toString h with rfl | h
  · rfl
  · exact Text.isBlankChar_of_isDigit h

theorem strip_toString (n : Int) : Text.strip (toString n) = toString n :=
  Text.strip_of_forall fun _ => isBlankChar_of_mem_toString

theorem isBlank_toString (n : Int) : Text.isBlank (toString n) = false := by
  obtain ⟨c, cs, hcs⟩ : ∃ c cs, (toString n).toList = c :: cs := by
    refine List.exists_cons_of_ne_nil fun h => ?_
    rw [toList_toString] at h
    exact Nat.toDigits_ne_nil (List.append_eq_nil_iff.1 h).2
  have hc := isBlankChar_of_mem_toString (hcs ▸ List.mem_cons_self : c ∈ (toString n).toList)
  rw [Text.isBlank, hcs, List.all_cons, hc]
  rfl

/-- Digits have no sign in front. -/
theorem splitSign_of_digits (digits : ∀ c ∈ ds, c.isDigit = true) : splitSign ds = (false, ds) := by
  unfold splitSign
  split
  · exact absurd rfl (ne_of_isDigit (digits _ List.mem_cons_self) rfl)
  · exact absurd rfl (ne_of_isDigit (digits _ List.mem_cons_self) rfl)
  · rfl

theorem splitSign_toString (n : Int) :
    splitSign (toString n).toList = (decide (n < 0), Nat.toDigits 10 n.natAbs) := by
  rw [toList_toString]
  split
  · next hneg =>
    rw [decide_eq_true hneg]
    rfl
  · next hneg =>
    rw [decide_eq_false hneg, List.nil_append, splitSign_of_digits fun _ => isDigit_toDigits]

theorem signed_natAbs (n : Int) : signed (decide (n < 0)) n.natAbs = n := by
  unfold signed
  split
  · next h => have := of_decide_eq_true h; omega
  · next h => have := of_decide_eq_false (Bool.eq_false_iff.2 h); omega

/-- **Integers are read back.** -/
theorem readInt?_toString {n : Int} (h : n.natAbs < 10 ^ maxDigits) : readInt? (toString n) = some n := by
  have hnumeral : numeral (toString n).toList = (toString n).toList := by
    refine numeral_of_forall (fun c hc => ?_) fun c => isBlankChar_of_mem_toString
    rcases mem_toString hc with rfl | hc
    · decide
    · exact Nat.lt_of_le_of_lt (Text.toNat_of_isDigit hc).2 (by decide)
  rw [readInt?, hnumeral, splitSign_toString]
  dsimp only
  rw [natIn?_toDigits h, Option.map_some, signed_natAbs]

/-! ## Numbers that are read are short -/

theorem digit_of_digitBelow? {base d : Nat} {c : Char} (h : digitBelow? base c = some d) : d < base := by
  have hfilter := (Option.filter_eq_some_iff.1 h).2
  exact of_decide_eq_true hfilter

/-- One more digit makes one more place. -/
theorem place_lt {value d count : Nat} (hvalue : value < 10 ^ count) (hd : d < 10) :
    value * 10 + d < 10 ^ (count + 1) := by
  rw [Nat.pow_succ]
  omega

/-- Digits give a number below the power of ten of their number. -/
theorem digitsFrom?_lt {value count : Nat} {free : Bool} {cs : List Char} {n digits : Nat}
    (h : digitsFrom? 10 value count free cs = some (n, digits)) (hvalue : value < 10 ^ count) :
    n < 10 ^ digits := by
  induction cs generalizing value count free with
  | nil =>
    unfold digitsFrom? at h
    split at h
    · cases h
      exact hvalue
    · cases h
  | cons c cs ih =>
    unfold digitsFrom? at h
    split at h
    · split at h
      · exact ih h hvalue
      · cases h
    · split at h
      · next d hd => exact ih h (place_lt hvalue (digit_of_digitBelow? hd))
      · cases h

theorem natIn?_lt {cs : List Char} {n : Nat} (h : natIn? 10 cs = some n) : n < 10 ^ maxDigits := by
  unfold natIn? at h
  split at h
  · next m digits hdigits =>
    split at h
    · cases h
    · next hshort =>
      obtain rfl := Option.some.inj h
      have hle : digits ≤ maxDigits := by simpa using hshort
      exact Nat.lt_of_lt_of_le (digitsFrom?_lt hdigits Nat.one_pos) (Nat.pow_le_pow_right (by decide) hle)
  · cases h

theorem natAbs_signed (negative : Bool) (n : Nat) : (signed negative n).natAbs = n := by
  cases negative <;> simp [signed]

/-- **An integer that is read** is short enough to be written. -/
theorem readInt?_lt {s : String} {n : Int} (h : readInt? s = some n) : n.natAbs < 10 ^ maxDigits := by
  unfold readInt? at h
  obtain ⟨m, hm, rfl⟩ := Option.map_eq_some_iff.1 h
  rw [natAbs_signed]
  exact natIn?_lt hm

/-- The least number with one digit more than can be written. -/
def myriads : Int := Int.ofNat (Nat.pow 10 maxDigits)

/-- A run of digits gives a number below the power of ten of its length. -/
theorem takeDigits_lt {value count places : Nat} (hvalue : value < 10 ^ places) (cs : List Char) :
    (takeDigits value count cs).1 < 10 ^ (places + cs.length) := by
  induction cs generalizing value count places with
  | nil => exact hvalue
  | cons c cs ih =>
    unfold takeDigits
    split
    · next hc =>
      have hdigit := Text.toNat_of_isDigit hc
      have hlt := @ih _ (count + 1) _ (place_lt hvalue (show c.toNat - 48 < 10 by omega))
      rwa [List.length_cons, Nat.add_comm cs.length, ← Nat.add_assoc]
    · exact Nat.lt_of_lt_of_le hvalue (Nat.pow_le_pow_right (by decide) (Nat.le_add_right _ _))

/-! ## Zeros in front -/

section Padded

variable {width : Nat}

theorem toList_pushn (s : String) (c : Char) (k : Nat) :
    (s.pushn c k).toList = s.toList ++ List.replicate k c := by
  rw [String.pushn_eq_repeat_push]
  induction k with
  | zero => exact (List.append_nil _).symm
  | succ k ih => rw [Nat.repeat, String.toList_push, ih, List.replicate_succ', List.append_assoc]

theorem toList_padded (width n : Nat) :
    (padded width n).toList =
      List.replicate (width - (Nat.toDigits 10 n).length) '0' ++ Nat.toDigits 10 n := by
  have hdigits : (toString n).toList = Nat.toDigits 10 n := Nat.toList_repr
  rw [padded, String.toList_append, toList_pushn, ← String.length_toList, hdigits]
  rfl

theorem isDigit_padded {c : Char} (h : c ∈ (padded width n).toList) : c.isDigit = true := by
  rw [toList_padded] at h
  rcases List.mem_append.1 h with h | h
  · rw [List.eq_of_mem_replicate h]
    rfl
  · exact isDigit_toDigits h

theorem length_padded (pos : 0 < width) (h : n < 10 ^ width) : (padded width n).toList.length = width := by
  have hle := (Nat.length_toDigits_le_iff (b := 10) (by decide) pos).2 h
  rw [toList_padded, List.length_append, List.length_replicate]
  omega

/-- **Zeros in front** of a number do not change it. -/
theorem ofDigitChars_padded (width n : Nat) : Nat.ofDigitChars 10 (padded width n).toList 0 = n := by
  rw [toList_padded, Nat.ofDigitChars_append, Nat.ofDigitChars_replicate_zero, Nat.mul_zero,
    Nat.ofDigitChars_ten_toDigits]

end Padded

end Number
end Walkthrough
