/-
# Texts and numbers in JSON

A text is read back from its quoted form, whatever follows (`text?_quoted`), and an integer from its digits
if what follows does not go on with the number (`value?_toString`). A float that the reader makes of
the whole of a text it makes of the text in front of anything that does not go on with it
(`value?_append_of_float`).
-/

import Walkthrough.Json.Reader
import Walkthrough.Json.Writer
import Walkthrough.Proofs.Number.Decimal

namespace Walkthrough
namespace Json

open Text (hexDigit hexDigits ne_of_isDigit)
open Condition (hexValue? hexNumber?)

variable {fuel depth : Nat} {rest : List Char}

/-! ## Quoted characters -/

theorem hexValue?_hexDigit {d : Nat} (h : d < 16) : hexValue? (hexDigit d) = some d := by
  revert d
  decide

/-- A number is read back from its digits in base sixteen. -/
theorem hexNumber?_hexDigits (n width m : Nat) :
    hexNumber? m width (hexDigits n width ++ rest) = some (m * 16 ^ width + n % 16 ^ width, rest) := by
  induction width generalizing m with
  | zero =>
    rw [hexDigits, List.nil_append, hexNumber?, Nat.pow_zero, Nat.mul_one, Nat.mod_one, Nat.add_zero]
  | succ width ih =>
    rw [hexDigits, List.cons_append, hexNumber?, hexValue?_hexDigit (Nat.mod_lt _ (by decide))]
    dsimp only
    rw [ih, Nat.mod_pow_succ, Nat.pow_succ, Nat.add_mul, Nat.mul_assoc m, Nat.mul_comm 16,
      Nat.mul_comm (n / 16 ^ width % 16)]
    congr 2
    omega

theorem escaped?_hexDigits {c : Char} (h : c.toNat < 32) :
    escaped? (hexDigits c.toNat 4 ++ rest) = some (c, rest) := by
  have hmod : 0 * 16 ^ 4 + c.toNat % 16 ^ 4 = c.toNat := by omega
  unfold escaped? unit?
  rw [hexNumber?_hexDigits, hmod]
  simp only [Option.bind_eq_bind, Option.bind_some]
  rw [if_neg (by simp; omega), if_neg (by simp; omega), Char.ofNat_toNat]

/-- A letter after a backslash. -/
theorem characters?_escape {c d : Char} (h : escape? c = some d) (rest : List Char) :
    characters? (fuel + 1) ('\\' :: c :: rest) =
      (characters? fuel rest).map fun (more, rest) => (d :: more, rest) := by
  have hu : c ≠ 'u' := by
    rintro rfl
    cases h
  rw [characters?, h]
  · cases characters? fuel rest <;> rfl
  · exact hu

/-- **One character** is read back from its quoted form. -/
theorem characters?_quoteChar (c : Char) (rest : List Char) :
    characters? (fuel + 1) (quoteChar c ++ rest) =
      (characters? fuel rest).map fun (more, rest) => (c :: more, rest) := by
  unfold quoteChar
  split_ifs with hquote hback hfeed hreturn htab hform hbell hcontrol
  -- Seven characters have a letter of their own.
  iterate 7
    · obtain rfl := beq_iff_eq.1 ‹(c == _) = true›
      exact characters?_escape rfl rest
  · rw [List.cons_append, List.cons_append, characters?, escaped?_hexDigits hcontrol]
    simp only [Option.bind_eq_bind, Option.bind_some]
    cases characters? fuel rest <;> rfl
  · have hquote : c ≠ '"' := by simpa using hquote
    have hback : c ≠ '\\' := by simpa using hback
    rw [List.singleton_append, characters?, if_neg (by simp [hcontrol, hback])]
    · exact hquote
    · exact fun _ h => absurd h hback
    · exact fun _ _ h => absurd h hback

theorem quoteChar_ne_nil (c : Char) : quoteChar c ≠ [] := by
  unfold quoteChar
  split_ifs <;> exact List.cons_ne_nil _ _

/-- The characters up to the closing quote. -/
theorem characters?_flatMap {cs : List Char} (h : cs.length < fuel) (rest : List Char) :
    characters? fuel (cs.flatMap quoteChar ++ '"' :: rest) = some (cs, rest) := by
  induction cs generalizing fuel with
  | nil =>
    obtain ⟨fuel, rfl⟩ := Nat.exists_eq_add_of_lt h
    rw [List.flatMap_nil, List.nil_append, List.length_nil, Nat.zero_add, characters?]
  | cons c cs ih =>
    cases fuel with
    | zero => cases h
    | succ fuel =>
      rw [List.flatMap_cons, List.append_assoc, characters?_quoteChar, ih (Nat.lt_of_succ_lt_succ h)]
      rfl

theorem length_le_flatMap (cs : List Char) : cs.length ≤ (cs.flatMap quoteChar).length := by
  induction cs with
  | nil => exact Nat.le_refl 0
  | cons c cs ih =>
    have := List.length_pos_iff.2 (quoteChar_ne_nil c)
    rw [List.flatMap_cons, List.length_append, List.length_cons]
    omega

theorem toList_quoted (s : String) : (quoted s).toList = '"' :: (s.toList.flatMap quoteChar ++ ['"']) :=
  String.toList_ofList

/-- **Texts are read back**, whatever follows the closing quote. -/
theorem text?_quoted (s : String) (rest : List Char) :
    text? (s.toList.flatMap quoteChar ++ '"' :: rest) = some (s, rest) := by
  have hlength : s.toList.length < (s.toList.flatMap quoteChar ++ '"' :: rest).length + 1 := by
    have := length_le_flatMap s.toList
    rw [List.length_append]
    omega
  rw [text?, characters?_flatMap hlength, Option.map_some]
  dsimp only
  rw [String.ofList_toList]

/-! ## Numbers -/

/-- What follows does not go on with a number. -/
def EndsNumber (rest : List Char) : Prop :=
  ∀ c, rest.head? = some c → c.isDigit = false ∧ c ≠ '.' ∧ c ≠ 'e' ∧ c ≠ 'E'

namespace EndsNumber

theorem nil : EndsNumber [] := fun _ h => by cases h

theorem cons {c : Char} (h : c.isDigit = false ∧ c ≠ '.' ∧ c ≠ 'e' ∧ c ≠ 'E') (rest : List Char) :
    EndsNumber (c :: rest) := fun d hd => by
  obtain rfl : c = d := Option.some.inj hd
  exact h

theorem fraction? (h : EndsNumber rest) : fraction? rest = some ([], rest) := by
  unfold Json.fraction?
  split
  · exact absurd rfl (h _ rfl).2.1
  · rfl

theorem exponent? (h : EndsNumber rest) : exponent? rest = some ([], rest) := by
  cases rest with
  | nil => rfl
  | cons c rest =>
    have hc : (c == 'e' || c == 'E') = false := by
      simp only [Bool.or_eq_false_iff, beq_eq_false_iff_ne]
      exact ⟨(h c rfl).2.2.1, (h c rfl).2.2.2⟩
    unfold Json.exponent?
    dsimp only
    rw [hc]
    rfl

end EndsNumber

theorem digits?_append {ds : List Char} (digits : ∀ c ∈ ds, c.isDigit = true) (some_digit : ds ≠ [])
    (stop : ∀ c, rest.head? = some c → c.isDigit = false) : digits? (ds ++ rest) = some (ds, rest) := by
  have hnone : rest.takeWhile Char.isDigit = [] := by
    cases rest with
    | nil => rfl
    | cons c rest => exact List.takeWhile_cons_of_neg (by rw [stop c rfl]; exact Bool.false_ne_true)
  have htake : (ds ++ rest).takeWhile Char.isDigit = ds := by
    rw [List.takeWhile_append_of_pos digits, hnone, List.append_nil]
  have hdrop : (ds ++ rest).dropWhile Char.isDigit = rest := by
    rw [List.dropWhile_append_of_pos digits, Text.dropWhile_eq_self stop]
  unfold digits?
  rw [htake, hdrop]
  exact if_neg (by simpa using some_digit)

theorem number?_toDigits {n : Nat} (short : n < 10 ^ Number.maxDigits) (h : EndsNumber rest)
    (negative : Bool) :
    number? negative (Nat.toDigits 10 n ++ rest) = some (.int (Number.signed negative n), rest) := by
  have hdigits : ∀ c ∈ Nat.toDigits 10 n, c.isDigit = true := fun _ => Number.isDigit_toDigits
  have hzero : ((Nat.toDigits 10 n).head? == some '0' && (Nat.toDigits 10 n).length > 1) = false := by
    rw [Bool.and_eq_false_iff]
    by_cases hhead : (Nat.toDigits 10 n).head? = some '0'
    · right
      rw [Number.head?_toDigits hhead]
      rfl
    · left
      simpa using hhead
  have hvalue : Number.takeDigits 0 0 (Nat.toDigits 10 n ++ []) = _ :=
    Number.takeDigits_append hdigits (fun c hc => by cases hc) 0 0
  rw [List.append_nil, Nat.ofDigitChars_ten_toDigits] at hvalue
  unfold number?
  simp only [digits?_append hdigits Nat.toDigits_ne_nil fun c hc => (h c hc).1, h.fraction?, h.exponent?,
    Option.bind_eq_bind, Option.bind_some, hzero, Bool.false_eq_true, if_false, List.isEmpty_nil,
    Bool.and_self, if_true, hvalue]
  exact if_neg (Nat.not_lt.2 (Number.length_toDigits_le short))

/-- A value that starts with a digit is a number. -/
theorem value?_digit {c : Char} (h : c.isDigit = true) (rest : List Char) :
    value? (fuel + 1) depth (c :: rest) = number? false (c :: rest) := by
  have differs {d : Char} {ds : List Char} (hd : d.isDigit = false) : c :: rest ≠ d :: ds :=
    fun heq => ne_of_isDigit h hd (List.cons.inj heq).1
  rw [value?]
  all_goals exact fun _ => differs rfl

/-- And so is one that starts with a minus and a digit. -/
theorem value?_minus {c : Char} (h : c.isDigit = true) (rest : List Char) :
    value? (fuel + 1) depth ('-' :: c :: rest) = number? true (c :: rest) := by
  have hword : c ≠ 'I' := ne_of_isDigit h rfl
  rw [value?]
  rintro _ heq
  exact hword (List.cons.inj heq).1

/-- **Integers are read back.** -/
theorem value?_toString {n : Int} (short : n.natAbs < 10 ^ Number.maxDigits) (h : EndsNumber rest) :
    value? (fuel + 1) depth ((toString n).toList ++ rest) = some (.int n, rest) := by
  obtain ⟨c, cs, hcs⟩ := List.exists_cons_of_ne_nil (Nat.toDigits_ne_nil (b := 10) (n := n.natAbs))
  have hc : c.isDigit = true := Number.isDigit_toDigits (hcs ▸ List.mem_cons_self)
  have hnumber := number?_toDigits short h (decide (n < 0))
  rw [Number.signed_natAbs, hcs, List.cons_append] at hnumber
  rw [Number.toList_toString, hcs]
  by_cases hneg : n < 0
  · rw [if_pos hneg, List.append_assoc, List.singleton_append, List.cons_append, value?_minus hc]
    rwa [decide_eq_true hneg] at hnumber
  · rw [if_neg hneg, List.nil_append, List.cons_append, value?_digit hc]
    rwa [decide_eq_false hneg] at hnumber

/-! ## Numbers in front of something else -/

section Append

variable {cs ds left : List Char}

theorem digits?_eq_some (h : digits? cs = some (ds, left)) :
    cs = ds ++ left ∧ (∀ c ∈ ds, c.isDigit = true) ∧ ds ≠ [] ∧
      ∀ c, left.head? = some c → c.isDigit = false := by
  unfold digits? at h
  dsimp only at h
  split at h
  · cases h
  · next hne =>
    cases h
    refine ⟨List.takeWhile_append_dropWhile.symm, fun c => List.mem_takeWhile_imp, by simpa using hne, ?_⟩
    exact fun c => Text.of_head?_dropWhile

theorem EndsNumber.isDigit_head? (h : EndsNumber rest) (hleft : ∀ c, left.head? = some c → c.isDigit = false)
    (c : Char) (hc : (left ++ rest).head? = some c) : c.isDigit = false := by
  cases left with
  | nil => exact (h c hc).1
  | cons d left => exact hleft c hc

theorem digits?_append_rest (h : EndsNumber rest) (hd : digits? cs = some (ds, left)) :
    digits? (cs ++ rest) = some (ds, left ++ rest) := by
  obtain ⟨rfl, hdigits, hne, hstop⟩ := digits?_eq_some hd
  rw [List.append_assoc]
  exact digits?_append hdigits hne (h.isDigit_head? hstop)

theorem fraction?_append_rest (h : EndsNumber rest) (hd : fraction? cs = some (ds, left)) :
    fraction? (cs ++ rest) = some (ds, left ++ rest) := by
  unfold fraction? at hd
  split at hd
  · obtain ⟨⟨run, left⟩, hrun, heq⟩ := Option.map_eq_some_iff.1 hd
    cases heq
    rw [List.cons_append, fraction?, digits?_append_rest h hrun]
    rfl
  · next hpoint =>
    cases hd
    cases cs with
    | nil => exact h.fraction?
    | cons c cs =>
      rw [List.cons_append, fraction?]
      rintro left' heq
      exact hpoint cs (by rw [(List.cons.inj heq).1])

theorem exponent?_append_rest (h : EndsNumber rest) (hd : exponent? cs = some (ds, left)) :
    exponent? (cs ++ rest) = some (ds, left ++ rest) := by
  cases cs with
  | nil =>
    cases hd
    exact h.exponent?
  | cons e cs =>
    unfold exponent? at hd ⊢
    dsimp only [List.cons_append] at hd ⊢
    split at hd
    · next hmark =>
      rw [if_pos hmark]
      split at hd
      · obtain ⟨⟨run, left⟩, hrun, heq⟩ := Option.map_eq_some_iff.1 hd
        cases heq
        simp only [List.cons_append, digits?_append_rest h hrun]
        rfl
      · obtain ⟨⟨run, left⟩, hrun, heq⟩ := Option.map_eq_some_iff.1 hd
        cases heq
        simp only [List.cons_append, digits?_append_rest h hrun]
        rfl
      · next hplus hminus =>
        obtain ⟨⟨run, left⟩, hrun, heq⟩ := Option.map_eq_some_iff.1 hd
        cases heq
        have happend := digits?_append_rest h hrun
        obtain ⟨rfl, hdigits, hne, -⟩ := digits?_eq_some hrun
        obtain ⟨c, run, rfl⟩ := List.exists_cons_of_ne_nil hne
        have hc := hdigits c List.mem_cons_self
        simp only [List.cons_append] at happend ⊢
        split
        · next heq => exact absurd (List.cons.inj heq).1 (ne_of_isDigit hc rfl)
        · next heq => exact absurd (List.cons.inj heq).1 (ne_of_isDigit hc rfl)
        · rw [happend]
          rfl
    · next hmark =>
      cases hd
      exact if_neg hmark

/-- **A number** is read as the same number in front of what does not go on with it. -/
theorem number?_append_rest {negative : Bool} {v : Value} (h : EndsNumber rest)
    (hv : number? negative cs = some (v, left)) :
    number? negative (cs ++ rest) = some (v, left ++ rest) := by
  unfold number? at hv
  obtain ⟨⟨whole, r⟩, hwhole, hv⟩ := Option.bind_eq_some_iff.1 hv
  dsimp only at hv
  split at hv
  · cases hv
  next hzero =>
    obtain ⟨⟨fraction, r'⟩, hfraction, hv⟩ := Option.bind_eq_some_iff.1 hv
    obtain ⟨⟨exponent, r''⟩, hexponent, hv⟩ := Option.bind_eq_some_iff.1 hv
    unfold number?
    simp only [digits?_append_rest h hwhole, fraction?_append_rest h hfraction,
      exponent?_append_rest h hexponent, Option.bind_eq_bind, Option.bind_some, if_neg hzero]
    dsimp only at hv
    split at hv
    · next hwholeOnly =>
      split at hv
      · cases hv
      · next hshort =>
        cases hv
        rw [if_pos hwholeOnly, if_neg hshort]
    · next hdecimal =>
      obtain ⟨⟨m, x⟩, hdec, hv⟩ := Option.bind_eq_some_iff.1 hv
      cases hv
      rw [if_neg hdecimal, hdec]
      rfl

end Append

/-! ## Floats -/

/-- A number begins with a digit. -/
theorem exists_cons_of_number? {negative : Bool} {cs left : List Char} {v : Value}
    (h : number? negative cs = some (v, left)) : ∃ c ds, cs = c :: ds ∧ c.isDigit = true := by
  unfold number? at h
  obtain ⟨⟨whole, r⟩, hwhole, -⟩ := Option.bind_eq_some_iff.1 h
  obtain ⟨rfl, hdigits, hne, -⟩ := digits?_eq_some hwhole
  obtain ⟨c, ds, rfl⟩ := List.exists_cons_of_ne_nil hne
  exact ⟨c, ds ++ r, rfl, hdigits c List.mem_cons_self⟩

/-- **A float has an exact text** if the reader makes it of its text, the whole of it. -/
def IsExact (x : Float) : Prop := value? 1 0 (floatText x).toList = some (.float x, [])

/-- A text that is a float as a whole is read as that float in front of what does not go on with it. -/
theorem value?_append_of_float {cs : List Char} {x : Float} (hx : value? 1 0 cs = some (.float x, []))
    (h : EndsNumber rest) : value? (fuel + 1) depth (cs ++ rest) = some (.float x, rest) := by
  unfold value? at hx
  split at hx
  case h_5 | h_6 | h_7 =>
    cases hx
    rfl
  case h_8 =>
    have hnumber := number?_append_rest h hx
    obtain ⟨c, ds, rfl, hc⟩ := exists_cons_of_number? hx
    rw [List.cons_append, List.cons_append, value?_minus hc]
    exact hnumber
  case h_9 =>
    obtain ⟨⟨s, left⟩, -, heq⟩ := Option.map_eq_some_iff.1 hx
    cases heq
  case h_12 =>
    have hnumber := number?_append_rest h hx
    obtain ⟨c, ds, rfl, hc⟩ := exists_cons_of_number? hx
    rw [List.cons_append, value?_digit hc]
    exact hnumber
  all_goals cases hx

end Json
end Walkthrough
