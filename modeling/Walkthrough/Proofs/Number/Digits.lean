/-
# Numerals of any script

A text of decimal digits has the same value whatever the scripts of its digits (`decimalValue?`). The reader
of integers first writes the digits of the Latin script instead, and gives this value if there are no more
digits than it reads (`readInt?_of_decimal`). However a numeral is spelt, it is one run of characters, and blanks
stand only around it (`readInt?_trim`). Digits that are not decimal are never read (`readInt?_eq_none_iff`).
-/

import Walkthrough.Proofs.Number.Decimal

namespace Walkthrough

namespace Text

variable {c : Char} {cs : List Char} {d : Nat}

/-! ## Decimal digits -/

/-- The digit of the Latin script with the value of a decimal digit. -/
def latinDigit (c : Char) : Char := digitChar ((decimalDigit? c).getD 0)

/-- **The value of a text** of decimal digits. -/
def decimalValue? (cs : List Char) : Option Nat :=
  if isDecimalText cs then some (cs.foldl (fun n c => 10 * n + (decimalDigit? c).getD 0) 0) else none

theorem isDigit_iff_between : c.isDigit = true ↔ '0' ≤ c ∧ c ≤ '9' := by
  simp only [Char.le_def, UInt32.le_iff_toNat_le]
  exact Char.isDigit_iff_toNat

theorem isSome_decimalValue? (cs : List Char) : (decimalValue? cs).isSome = isDecimalText cs := by
  rw [decimalValue?]
  split
  · next h => rw [h, Option.isSome_some]
  · next h => rw [Bool.eq_false_iff.2 h, Option.isSome_none]

/-- A decimal digit is one of the ten behind the digit zero of its script. -/
theorem exists_zeroDigit (h : decimalDigit? c = some d) : ∃ z ∈ zeroDigits, d < 10 ∧ c.toNat = z + d := by
  unfold decimalDigit? at h
  split at h
  · next hlatin =>
    cases h
    have hrange := toNat_of_isDigit (isDigit_iff_between.2 hlatin)
    exact ⟨0x30, by decide +kernel, by omega, by omega⟩
  · split at h
    · cases h
    · split at h
      · next z hz =>
        split at h
        · next hrow =>
          cases h
          exact ⟨z, Array.mem_of_getElem? hz, by omega, by omega⟩
        · cases h
      · cases h

theorem decimalDigit?_lt (h : decimalDigit? c = some d) : d < 10 := by
  obtain ⟨-, -, hlt, -⟩ := exists_zeroDigit h
  exact hlt

/-- No decimal digit is blank. -/
theorem isBlankChar_of_isDecimal (h : isDecimal c = true) : isBlankChar c = false := by
  obtain ⟨d, hd⟩ := Option.isSome_iff_exists.1 h
  obtain ⟨z, hz, hlt, hc⟩ := exists_zeroDigit hd
  have hall : ∀ z ∈ zeroDigits.toList, ∀ d < 10, isBlankChar (Char.ofNat (z + d)) = false := by
    decide +kernel
  rw [← Char.ofNat_toNat c, hc]
  exact hall z (Array.mem_toList_iff.2 hz) d hlt

theorem toNat_digitChar (h : d < 10) : (digitChar d).toNat = 48 + d := by
  revert d
  decide

theorem isDigit_latinDigit (h : isDecimal c = true) : (latinDigit c).isDigit = true := by
  obtain ⟨d, hd⟩ := Option.isSome_iff_exists.1 h
  have hlt := decimalDigit?_lt hd
  rw [Char.isDigit_iff_toNat, latinDigit, hd, Option.getD_some, toNat_digitChar hlt]
  exact ⟨Nat.le_add_right 48 d, Nat.add_le_add_left (Nat.le_of_lt_succ hlt) 48⟩

/-- A decimal digit of the Latin script stands for itself. -/
theorem latinDigit_of_lt (h : isDecimal c = true) (hc : c.toNat < 128) : latinDigit c = c := by
  unfold isDecimal decimalDigit? at h
  unfold latinDigit decimalDigit?
  split at h
  · next hlatin =>
    have hrange := toNat_of_isDigit (isDigit_iff_between.2 hlatin)
    rw [if_pos hlatin, Option.getD_some, digitChar, Nat.add_sub_cancel' hrange.1, Char.ofNat_toNat]
  · cases h

end Text

namespace Number

open Text (isBlankChar isNumeralBlank isDecimal latinDigit)

variable {cs : List Char} {c : Char}

/-! ## Latin forms -/

/-- The characters of which the numerals of integers are made. -/
def isNumeralChar (c : Char) : Bool := c.isDigit || c == '_' || c == '+' || c == '-'

theorem isBlankChar_of_isNumeralChar (h : isNumeralChar c = true) : isBlankChar c = false := by
  simp only [isNumeralChar, Bool.or_eq_true, beq_iff_eq] at h
  rcases h with ((h | rfl) | rfl) | rfl
  · exact Text.isBlankChar_of_isDigit h
  all_goals rfl

/-- Characters that have a Latin form in a numeral. -/
def hasLatinForm (c : Char) : Bool := c.toNat < 127 || isBlankChar c || isDecimal c

/-- The Latin form of a character in a numeral. -/
def latinChar (c : Char) : Char :=
  if c.toNat < 127 then c else if isBlankChar c then ' ' else latinDigit c

theorem latinNumeral_of_forall (h : ∀ c ∈ cs, hasLatinForm c = true) : latinNumeral cs = cs.map latinChar := by
  induction cs with
  | nil => rfl
  | cons c cs ih =>
    have hc := h c List.mem_cons_self
    rw [latinNumeral, ih fun x hx => h x (List.mem_cons_of_mem _ hx), List.map_cons, latinChar]
    split
    · rfl
    · next hlatin =>
      split
      · rfl
      · next hblank =>
        have hdecimal : isDecimal c = true := by simpa [hasLatinForm, hlatin, hblank] using hc
        obtain ⟨d, hd⟩ := Option.isSome_iff_exists.1 hdecimal
        rw [latinDigit, hd]
        rfl

/-- A character without a Latin form leaves a mark. -/
theorem hasLatinForm_of_latinNumeral (h : '?' ∉ latinNumeral cs) : ∀ c ∈ cs, hasLatinForm c = true := by
  induction cs with
  | nil => exact fun c hc => absurd hc List.not_mem_nil
  | cons c cs ih =>
    rw [latinNumeral] at h
    rw [List.forall_mem_cons, hasLatinForm]
    split at h
    · next hlatin => exact ⟨by simp [hlatin], ih (mt (List.mem_cons_of_mem _) h)⟩
    · split at h
      · next hblank => exact ⟨by simp [hblank], ih (mt (List.mem_cons_of_mem _) h)⟩
      · split at h
        · next d hd => exact ⟨by simp [isDecimal, hd], ih (mt (List.mem_cons_of_mem _) h)⟩
        · exact absurd List.mem_cons_self h

/-- Latin forms tell blanks from what is not blank. -/
theorem isNumeralBlank_latinChar (h : hasLatinForm c = true) (hblank : isNumeralBlank (latinChar c) = true) :
    isBlankChar c = true := by
  by_contra hc
  rw [Bool.not_eq_true] at hc
  unfold latinChar at hblank
  split at hblank
  · rw [Text.isNumeralBlank_of_not_isBlankChar hc] at hblank
    cases hblank
  · next hlatin =>
    have hdecimal : isDecimal c = true := by simpa [hasLatinForm, hlatin, hc] using h
    rw [hc, if_neg Bool.false_ne_true, Text.isNumeralBlank_of_not_isBlankChar
      (Text.isBlankChar_of_isDigit (Text.isDigit_latinDigit hdecimal))] at hblank
    cases hblank

theorem isBlankChar_of_latinChar (h : isNumeralChar (latinChar c) = true) : isBlankChar c = false := by
  unfold latinChar at h
  split at h
  · exact isBlankChar_of_isNumeralChar h
  · split at h
    · cases h
    · next hblank => exact Bool.eq_false_iff.2 hblank

/-- A Latin character is its own Latin form. -/
theorem latinChar_of_lt (h : hasLatinForm c = true) (hblank : isBlankChar c = false) (hlt : c.toNat < 128) :
    latinChar c = c := by
  unfold latinChar
  split
  · rfl
  · next hlatin =>
    have hdecimal : isDecimal c = true := by simpa [hasLatinForm, hlatin, hblank] using h
    rw [hblank, if_neg Bool.false_ne_true, Text.latinDigit_of_lt hdecimal hlt]

theorem isBlankChar_of_isNumeralBlank (h : isNumeralBlank c = true) : isBlankChar c = true := by
  by_contra hc
  rw [Text.isNumeralBlank_of_not_isBlankChar (Bool.eq_false_iff.2 hc)] at h
  cases h

theorem numeral_of_latinForm (form : ∀ c ∈ cs, hasLatinForm c = true)
    (h : ∀ c ∈ cs, isNumeralChar (latinChar c) = true) : numeral cs = cs.map latinChar := by
  have hlatin : (if cs.all (·.toNat < 128) then cs else latinNumeral cs) = cs.map latinChar := by
    split
    · next hall =>
      have hsame := List.map_congr_left fun c hc => latinChar_of_lt (form c hc) (isBlankChar_of_latinChar (h c hc))
        (of_decide_eq_true (List.all_eq_true.1 hall c hc))
      exact (hsame.trans (List.map_id cs)).symm
    · exact latinNumeral_of_forall form
  rw [numeral, hlatin]
  exact Text.trimWith_of_forall (List.forall_mem_map.2 fun c hc =>
    Text.isNumeralBlank_of_not_isBlankChar (isBlankChar_of_isNumeralChar (h c hc)))

theorem latinChar_of_isDecimal (h : isDecimal c = true) : latinChar c = latinDigit c := by
  unfold latinChar
  split
  · next hlatin => rw [Text.latinDigit_of_lt h (by omega)]
  · rw [Text.isBlankChar_of_isDecimal h, if_neg Bool.false_ne_true]

/-- The characters of a numeral of decimal digits are the digits of the Latin script. -/
theorem numeral_of_decimal (h : ∀ c ∈ cs, isDecimal c = true) : numeral cs = cs.map latinDigit := by
  have hchar : ∀ c ∈ cs, isNumeralChar (latinChar c) = true := fun c hc => by
    rw [latinChar_of_isDecimal (h c hc), isNumeralChar, Text.isDigit_latinDigit (h c hc)]
    rfl
  rw [numeral_of_latinForm (fun c hc => by rw [hasLatinForm, h c hc, Bool.or_true]) hchar]
  exact List.map_congr_left fun c hc => latinChar_of_isDecimal (h c hc)

/-! ## Numerals of decimal digits -/

theorem ofDigitChars_latinDigit (h : ∀ c ∈ cs, isDecimal c = true) (value : Nat) :
    Nat.ofDigitChars 10 (cs.map latinDigit) value =
      cs.foldl (fun n c => 10 * n + (Text.decimalDigit? c).getD 0) value := by
  induction cs generalizing value with
  | nil => rfl
  | cons c cs ih =>
    obtain ⟨d, hd⟩ := Option.isSome_iff_exists.1 (h c List.mem_cons_self)
    have hvalue : (latinDigit c).toNat - 48 = d := by
      rw [latinDigit, hd, Option.getD_some, Text.toNat_digitChar (Text.decimalDigit?_lt hd)]
      omega
    rw [List.map_cons, Nat.ofDigitChars_cons, ih fun x hx => h x (List.mem_cons_of_mem _ hx), List.foldl_cons, hd,
      Option.getD_some, show (latinDigit c).toNat - '0'.toNat = d from hvalue]

/-- **An integer is read from decimal digits of any script**, up to the number of digits that is read. -/
theorem readInt?_of_decimal {n : Nat} (h : Text.decimalValue? cs = some n) :
    readInt? (String.ofList cs) = if cs.length ≤ maxDigits then some (n : Int) else none := by
  unfold Text.decimalValue? at h
  split at h
  · next htext =>
    rw [Text.isDecimalText, Bool.and_eq_true, Bool.not_eq_true', List.isEmpty_eq_false_iff, List.all_eq_true] at htext
    obtain ⟨hne, hall⟩ := htext
    have hdigits : ∀ c ∈ cs.map latinDigit, c.isDigit = true :=
      List.forall_mem_map.2 fun c hc => Text.isDigit_latinDigit (hall c hc)
    rw [readInt?, String.toList_ofList, numeral_of_decimal hall, splitSign_of_digits hdigits]
    dsimp only
    rw [natIn?_of_digits hdigits (mt List.map_eq_nil_iff.1 hne), List.length_map,
      ofDigitChars_latinDigit hall, Option.some.inj h]
    split <;> rfl
  · cases h

/-! ## Numerals between blanks -/

theorem isDigit_of_digitBelow? {d : Nat} (h : digitBelow? 10 c = some d) : c.isDigit = true := by
  obtain ⟨h, hd⟩ := Option.filter_eq_some_iff.1 h
  have hlt : d < 10 := of_decide_eq_true hd
  simp only [digitValue?, Char.le_def, UInt32.le_iff_toNat_le] at h
  rw [Char.isDigit_iff_toNat]
  split at h
  · next hle => exact hle
  · split at h
    · next hle =>
      have hletter : 97 ≤ c.toNat := hle.1
      cases h
      omega
    · split at h
      · next hle =>
        have hletter : 65 ≤ c.toNat := hle.1
        cases h
        omega
      · cases h

theorem isNumeralChar_of_digitsFrom? {value count : Nat} {free : Bool} {result : Nat × Nat}
    (h : digitsFrom? 10 value count free cs = some result) : ∀ c ∈ cs, isNumeralChar c = true := by
  induction cs generalizing value count free with
  | nil => exact fun c hc => absurd hc List.not_mem_nil
  | cons c cs ih =>
    unfold digitsFrom? at h
    split at h
    · next hscore =>
      split at h
      · refine List.forall_mem_cons.2 ⟨?_, ih h⟩
        rw [isNumeralChar, hscore]
        simp
      · cases h
    · split at h
      · next d hd =>
        refine List.forall_mem_cons.2 ⟨?_, ih h⟩
        rw [isNumeralChar, isDigit_of_digitBelow? hd]
        rfl
      · cases h

theorem isNumeralChar_of_splitSign (h : ∀ c ∈ (splitSign cs).2, isNumeralChar c = true) :
    ∀ c ∈ cs, isNumeralChar c = true := by
  unfold splitSign at h
  split at h
  · exact List.forall_mem_cons.2 ⟨rfl, h⟩
  · exact List.forall_mem_cons.2 ⟨rfl, h⟩
  · exact h

/-- A numeral that is read is made of digits, underscores and a sign. -/
theorem isNumeralChar_of_readInt? {n : Int} (h : readInt? (String.ofList cs) = some n) :
    ∀ c ∈ numeral cs, isNumeralChar c = true := by
  rw [readInt?, String.toList_ofList] at h
  obtain ⟨m, hm, -⟩ := Option.map_eq_some_iff.1 h
  refine isNumeralChar_of_splitSign ?_
  unfold natIn? at hm
  split at hm
  · next hdigits => exact isNumeralChar_of_digitsFrom? hdigits
  · cases hm

/-- A numeral made of the right characters comes from characters that have Latin forms, unless all are Latin. -/
theorem hasLatinForm_of_numeral (hlatin : ¬cs.all (·.toNat < 128) = true)
    (h : ∀ c ∈ numeral cs, isNumeralChar c = true) : ∀ c ∈ cs, hasLatinForm c = true := by
  rw [numeral, if_neg hlatin] at h
  -- The mark of a refused character would be left, since it is not blank.
  refine hasLatinForm_of_latinNumeral fun hmem => ?_
  obtain ⟨before, after, hcs, hbefore, hafter⟩ := Text.exists_trimWith isNumeralBlank (latinNumeral cs)
  rw [hcs, List.mem_append, List.mem_append] at hmem
  rcases hmem with hmem | hmem | hmem
  · exact absurd (hbefore _ hmem) (by decide)
  · exact absurd (h _ hmem) (by decide)
  · exact absurd (hafter _ hmem) (by decide)

/-- A numeral made of the right characters is one run of them between blanks. -/
theorem numeral_trim (h : ∀ c ∈ numeral cs, isNumeralChar c = true) :
    (∀ c ∈ Text.trim cs, isBlankChar c = false) ∧ numeral (Text.trim cs) = numeral cs := by
  by_cases hlatin : cs.all (·.toNat < 128) = true
  · rw [numeral, if_pos hlatin] at h
    have hfilled : ∀ c ∈ Text.trimWith isNumeralBlank cs, isBlankChar c = false := fun c hc =>
      isBlankChar_of_isNumeralChar (h c hc)
    have hlt : ∀ c ∈ Text.trimWith isNumeralBlank cs, c.toNat < 128 := fun c hc => by
      simpa using List.all_eq_true.1 hlatin c (Text.mem_of_mem_trimWith hc)
    rw [Text.trim_eq_trimWith (fun c _ => isBlankChar_of_isNumeralBlank) hfilled, numeral_of_forall hlt hfilled,
      numeral, if_pos hlatin]
    exact ⟨hfilled, rfl⟩
  · have hform := hasLatinForm_of_numeral hlatin h
    rw [numeral, if_neg hlatin] at h
    rw [latinNumeral_of_forall hform, Text.trimWith_map, List.forall_mem_map] at h
    have hfilled : ∀ c ∈ Text.trimWith (isNumeralBlank ∘ latinChar) cs, isBlankChar c = false := fun c hc =>
      isBlankChar_of_latinChar (h c hc)
    have hpart : ∀ c ∈ Text.trimWith (isNumeralBlank ∘ latinChar) cs, hasLatinForm c = true := fun c hc =>
      hform c (Text.mem_of_mem_trimWith hc)
    rw [Text.trim_eq_trimWith (fun c hc => isNumeralBlank_latinChar (hform c hc)) hfilled]
    refine ⟨hfilled, (numeral_of_latinForm hpart h).trans ?_⟩
    rw [numeral, if_neg hlatin, latinNumeral_of_forall hform, Text.trimWith_map]

/-- **An integer is read from one run of characters**, and blanks around it do not count. -/
theorem readInt?_trim {n : Int} (h : readInt? (String.ofList cs) = some n) :
    (∀ c ∈ Text.trim cs, isBlankChar c = false) ∧ readInt? (String.ofList (Text.trim cs)) = some n := by
  obtain ⟨hfilled, hsame⟩ := numeral_trim (isNumeralChar_of_readInt? h)
  refine ⟨hfilled, ?_⟩
  rw [readInt?, String.toList_ofList] at h ⊢
  rwa [hsame]

/-! ## Digits that are not decimal -/

/-- The code points of Latin characters and of blank ones. -/
def plainCodes : List Nat :=
  List.range 128 ++ [0x85, 0xA0, 0x1680, 0x2028, 0x2029, 0x202F, 0x205F, 0x3000] ++ List.range' 0x2000 11

theorem mem_plainCodes (h : c.toNat < 128 ∨ isBlankChar c = true) : c.toNat ∈ plainCodes := by
  simp only [isBlankChar, Bool.or_eq_true, Bool.and_eq_true, decide_eq_true_eq, beq_iff_eq] at h
  simp only [plainCodes, List.mem_append, List.mem_range, List.mem_cons, List.not_mem_nil, List.mem_range'_1]
  omega

/-- They are neither Latin nor blank. -/
theorem isDecimal_of_isDigit (digit : Text.isDigit c = true) (h : c.toNat < 128 ∨ isBlankChar c = true) :
    isDecimal c = true := by
  have hall : ∀ n ∈ plainCodes, Text.inClass Text.otherDigitBoundaries (Char.ofNat n) = false := by decide +kernel
  have hother := hall _ (mem_plainCodes h)
  rw [Char.ofNat_toNat] at hother
  rwa [Text.isDigit, hother, Bool.or_false] at digit

/-- So an integer is read only from digits that are decimal. -/
theorem isDecimal_of_readInt? {n : Int} (digits : ∀ c ∈ cs, Text.isDigit c = true)
    (h : readInt? (String.ofList cs) = some n) : ∀ c ∈ cs, isDecimal c = true := by
  intro c hc
  by_cases hlatin : cs.all (·.toNat < 128) = true
  · exact isDecimal_of_isDigit (digits c hc) (.inl (by simpa using List.all_eq_true.1 hlatin c hc))
  · have hform := hasLatinForm_of_numeral hlatin (isNumeralChar_of_readInt? h) c hc
    rw [hasLatinForm, Bool.or_eq_true, Bool.or_eq_true, decide_eq_true_eq] at hform
    exact hform.elim (fun hplain => isDecimal_of_isDigit (digits c hc) (hplain.imp_left (by omega))) id

/-- **A text of digits is not read as an integer** exactly if one of them is not decimal or they are too many. -/
theorem readInt?_eq_none_iff (digits : Text.isDigitText cs = true) : readInt? (String.ofList cs) = none ↔
    (∃ c ∈ cs, isDecimal c = false) ∨ maxDigits < cs.length := by
  rw [Text.isDigitText, Bool.and_eq_true, Bool.not_eq_true', List.isEmpty_eq_false_iff, List.all_eq_true] at digits
  obtain ⟨hne, hall⟩ := digits
  by_cases hdecimal : ∀ c ∈ cs, isDecimal c = true
  · have htext : Text.isDecimalText cs = true := by simpa [Text.isDecimalText, hne] using hdecimal
    rw [← Text.isSome_decimalValue?] at htext
    obtain ⟨n, hn⟩ := Option.isSome_iff_exists.1 htext
    have hnot : ¬∃ c ∈ cs, isDecimal c = false := by simpa using hdecimal
    rw [readInt?_of_decimal hn, or_iff_right hnot, ite_eq_right_iff, ← Nat.not_le]
    simp only [reduceCtorEq, imp_false]
  · refine iff_of_true ?_ (.inl (by simpa using hdecimal))
    exact Option.eq_none_iff_forall_ne_some.2 fun n hn => hdecimal (isDecimal_of_readInt? hall hn)

end Number
end Walkthrough
