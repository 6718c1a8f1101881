/-
# Integers beyond every double

An integer is rounded to 53 binary digits, and the result is a double if its exponent fits. The greatest double
is `(2^53 - 1) · 2^971`. Halfway from there to `2^1024` lies `overflowBound`; an integer that is as great as
that, apart from its sign, is rounded to `2^1024` and has no double (`ofInt?_eq_none_iff`).
-/

import Mathlib
import Walkthrough.Number.Binary

namespace Walkthrough
namespace Number

/-! ## Assembled doubles -/

/-- The bits of a double are the bits it is made of, unless they stand for what is not a number. -/
theorem toBits_ofBits {b : UInt64} (h : b.toNat / 2 ^ 52 % 2 ^ 11 ≠ 2047) : (Float.ofBits b).toBits = b := by
  have hnumber : @Float.Model.UnpackedFloat.isNaNBits .binary64 b.toBitVec = false := by
    rw [Float.Model.UnpackedFloat.isNaNBits, decide_eq_false_iff_not, not_and]
    intro hexponent
    rw [Float.Model.UnpackedFloat.unpackExponent_def] at hexponent
    have hfield := congrArg BitVec.toNat hexponent
    rw [BitVec.extractLsb'_toNat, Nat.shiftRight_eq_div_pow] at hfield
    exact absurd hfield h
  have hpack := @Float.Model.UnpackedFloat.pack_unpack .binary64 b.toBitVec
  rw [hnumber] at hpack
  exact congrArg UInt64.ofBitVec hpack

theorem isFinite_infinity (negative : Bool) : isFinite (infinity negative) = false := by
  cases negative <;> decide +kernel

/-- A double is finite if its exponent field is not that of the infinities. -/
theorem isFinite_of_field {x : Float} (h : x.toBits.toNat / 2 ^ 52 % 2 ^ 11 ≠ 2047) : isFinite x = true := by
  unfold isFinite parts
  by_cases hzero : x.toBits.toNat / 2 ^ 52 % 2 ^ 11 = 0 <;> simp [h, hzero]

theorem isFinite_assemble (negative : Bool) {field fraction : Nat} (hfield : field < 2047)
    (hfraction : fraction < 2 ^ 52) : isFinite (assemble negative field fraction) = true := by
  unfold assemble
  generalize hn : (if negative then 2 ^ 63 else 0) + field * 2 ^ 52 + fraction = n
  have hsmall : n < 2 ^ 64 ∧ n / 2 ^ 52 % 2 ^ 11 = field := by
    cases negative <;> simp only [Bool.false_eq_true, if_true, if_false] at hn <;> omega
  have hbits : (UInt64.ofNat n).toNat / 2 ^ 52 % 2 ^ 11 ≠ 2047 := by
    rw [UInt64.toNat_ofNat', Nat.mod_eq_of_lt hsmall.1, hsmall.2]
    exact Nat.ne_of_lt hfield
  exact isFinite_of_field (by rwa [toBits_ofBits hbits])

/-! ## Rounding -/

theorem divEven_bounds (n d : Nat) : n / d ≤ divEven n d ∧ divEven n d ≤ n / d + 1 := by
  unfold divEven
  dsimp only
  split <;> omega

/-- A quotient of 53 binary digits is rounded to one of 54 from the last half on. -/
theorem divEven_eq_top_iff {n h : Nat} (hpos : 0 < h) (hn : n < 2 ^ 53 * (2 * h)) :
    divEven n (2 * h) = 2 ^ 53 ↔ 2 ^ 53 * (2 * h) - h ≤ n := by
  by_cases hlast : (2 ^ 53 - 1) * (2 * h) ≤ n
  · have hq : n / (2 * h) = 2 ^ 53 - 1 := Nat.div_eq_of_lt_le hlast (by simpa using hn)
    have hr := Nat.div_add_mod n (2 * h)
    rw [hq] at hr
    unfold divEven
    simp only [hq]
    generalize n % (2 * h) = r at hr
    simp
    omega
  · have hq : n / (2 * h) < 2 ^ 53 - 1 := (Nat.div_lt_iff_lt_mul (by omega)).2 (Nat.lt_of_not_le hlast)
    have hbounds := divEven_bounds n (2 * h)
    omega

theorem floorLog2_one (n : Nat) (hn : n ≠ 0) : floorLog2 n 1 = n.log2 := by
  have hle := Nat.log2_self_le hn
  have hone : Nat.log2 1 = 0 := rfl
  unfold floorLog2
  rw [hone, Int.natCast_zero, Int.sub_zero]
  dsimp only
  rw [if_pos]
  simpa using hle

/-- A number has more than `a + 54` binary digits, or just as many and is rounded up to one more, from a bound
on. -/
theorem top_le_iff {n : Nat} (hn : n ≠ 0) (a : Nat) : (2 ^ 54 - 1) * 2 ^ a ≤ n ↔
    a + 54 ≤ n.log2 ∨ n.log2 = a + 53 ∧ divEven n (2 ^ (a + 1)) = 2 ^ 53 := by
  have hlow := Nat.log2_self_le hn
  have hhigh : n < 2 ^ (n.log2 + 1) := Nat.lt_log2_self
  have hdouble : 2 ^ (a + 1) = 2 * 2 ^ a := Nat.pow_succ'
  have hbelow : 2 ^ (a + 53) = 2 ^ 53 * 2 ^ a := by rw [Nat.add_comm, Nat.pow_add]
  have htop : 2 ^ (a + 54) = 2 ^ 53 * (2 * 2 ^ a) := by
    rw [show a + 54 = 53 + (a + 1) by omega, Nat.pow_add, hdouble]
  have hpos : 0 < 2 ^ a := Nat.two_pow_pos a
  rcases Nat.lt_trichotomy n.log2 (a + 53) with hless | hequal | hmore
  · have hsmall : n < 2 ^ (a + 53) := Nat.lt_of_lt_of_le hhigh (Nat.pow_le_pow_right (by decide) hless)
    exact iff_of_false (by omega) (by omega)
  · rw [hequal, Nat.add_assoc] at hhigh
    have hround := divEven_eq_top_iff (n := n) hpos (by rwa [← htop])
    rw [hdouble, hround, hequal]
    omega
  · have hbig : 2 ^ (a + 54) ≤ n := Nat.le_trans (Nat.pow_le_pow_right (by decide) hmore) hlow
    exact iff_of_true (by omega) (.inl hmore)

/-- Halfway from the greatest double to the power of two after it. -/
def overflowBound : Nat := (2 ^ 54 - 1) * 2 ^ 970

theorem overflowBound_pos : 0 < overflowBound := by decide +kernel

/-- The quotient that is rounded has 53 binary digits. -/
theorem divEven_scaled {n : Nat} (hn : n ≠ 0) :
    let q := divEven (n * 2 ^ (52 - n.log2)) (2 ^ (n.log2 - 52))
    2 ^ 52 ≤ q ∧ q ≤ 2 ^ 53 := by
  have hlow := Nat.log2_self_le hn
  have hhigh : n < 2 ^ (n.log2 + 1) := Nat.lt_log2_self
  generalize n.log2 = k at *
  have hscale : 2 ^ k * 2 ^ (52 - k) = 2 ^ 52 * 2 ^ (k - 52) := by
    rw [← Nat.pow_add, ← Nat.pow_add]
    exact congrArg _ (by omega)
  have hpos : 0 < 2 ^ (k - 52) := Nat.two_pow_pos _
  have hleast : 2 ^ 52 ≤ n * 2 ^ (52 - k) / 2 ^ (k - 52) := by
    rw [Nat.le_div_iff_mul_le hpos, ← hscale]
    exact Nat.mul_le_mul_right _ hlow
  have hmost : n * 2 ^ (52 - k) / 2 ^ (k - 52) < 2 ^ 53 := by
    have htwice : 2 ^ (k + 1) * 2 ^ (52 - k) = 2 ^ 53 * 2 ^ (k - 52) := by
      rw [Nat.pow_succ', Nat.mul_assoc, hscale, ← Nat.mul_assoc]
    rw [Nat.div_lt_iff_lt_mul hpos, ← htwice]
    exact Nat.mul_lt_mul_of_pos_right hhigh (Nat.two_pow_pos _)
  have hbounds := divEven_bounds (n * 2 ^ (52 - k)) (2 ^ (k - 52))
  exact ⟨Nat.le_trans hleast hbounds.1, Nat.le_trans hbounds.2 hmost⟩

/-- **A whole number is rounded to an infinity** from the bound on. -/
theorem isFinite_ofRatio_one_iff (negative : Bool) {n : Nat} (hn : n ≠ 0) :
    isFinite (ofRatio negative n 1) = false ↔ overflowBound ≤ n := by
  unfold overflowBound
  rw [top_le_iff hn 970]
  obtain ⟨hleast, hmost⟩ := divEven_scaled hn
  have hsame : n.log2 = 970 + 53 →
      divEven (n * 2 ^ (52 - n.log2)) (2 ^ (n.log2 - 52)) = divEven n (2 ^ (970 + 1)) := by
    intro hk
    rw [show 52 - n.log2 = 0 by omega, show n.log2 - 52 = 970 + 1 by omega, Nat.pow_zero, Nat.mul_one]
  unfold ofRatio
  rw [floorLog2_one n hn]
  generalize n.log2 = k at *
  have hexponent : max ((k : Int) - 52) (-1074) = (k : Int) - 52 := by omega
  have hup : (-((k : Int) - 52)).toNat = 52 - k := by omega
  have hdown : ((k : Int) - 52).toNat = k - 52 := by omega
  simp only [hexponent, hup, hdown, Nat.one_mul, beq_iff_eq, hn, if_false]
  generalize divEven (n * 2 ^ (52 - k)) (2 ^ (k - 52)) = q at *
  generalize divEven n (2 ^ (970 + 1)) = r at *
  rw [if_neg (Nat.not_lt.2 hleast)]
  by_cases hround : q = 2 ^ 53
  · have hfield : ((k : Int) - 52 + 1 + 1075).toNat = k + 1024 := by omega
    simp only [hround, if_true, hfield]
    split
    · exact iff_of_true (isFinite_infinity negative) (by omega)
    · rw [isFinite_assemble negative (by omega) (by decide)]
      exact iff_of_false (fun h => nomatch h) (by omega)
  · have hfield : ((k : Int) - 52 + 1075).toNat = k + 1023 := by omega
    simp only [hround, if_false, hfield]
    split
    · exact iff_of_true (isFinite_infinity negative) (by omega)
    · rw [isFinite_assemble negative (by omega) (by omega)]
      exact iff_of_false (fun h => nomatch h) (by omega)

/-- **An integer has no double** exactly if it is as great as the bound, apart from its sign. -/
theorem ofInt?_eq_none_iff (n : Int) : ofInt? n = none ↔ overflowBound ≤ n.natAbs := by
  unfold ofInt?
  dsimp only
  by_cases hn : n.natAbs = 0
  · have hzero : isFinite (ofRatio (n < 0) n.natAbs 1) = true := by
      rw [hn]
      cases decide (n < 0) <;> decide +kernel
    rw [if_pos hzero, hn]
    exact iff_of_false (fun h => nomatch h) (Nat.not_le.2 overflowBound_pos)
  · rw [← isFinite_ofRatio_one_iff (n < 0) hn]
    cases isFinite (ofRatio (n < 0) n.natAbs 1) <;> simp

end Number
end Walkthrough
