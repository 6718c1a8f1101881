/-
# Blank characters

A character is blank if it separates without being seen: the spaces of all scripts, the line and
paragraph separators and the controls that move the cursor or separate records. The zero-width
characters are not blank.
-/

namespace Walkthrough
namespace Text

/-- **Blank characters** of all scripts. -/
def isBlankChar (c : Char) : Bool :=
  let n := c.toNat
  (9 ≤ n && n ≤ 13) || (28 ≤ n && n ≤ 32) || n == 0x85 || n == 0xA0 || n == 0x1680 ||
    (0x2000 ≤ n && n ≤ 0x200A) || n == 0x2028 || n == 0x2029 || n == 0x202F || n == 0x205F ||
    n == 0x3000

/-- The blank characters that may stand around a numeral: space, tab, line feed, vertical tab, form
feed and carriage return. -/
def isNumeralBlank (c : Char) : Bool :=
  c == ' ' || (9 ≤ c.toNat && c.toNat ≤ 13)

/-- The list without the characters of a class at its two ends. -/
def trimWith (p : Char → Bool) (cs : List Char) : List Char :=
  ((cs.dropWhile p).reverse.dropWhile p).reverse

/-- The list without blank characters at its two ends. -/
def trim (cs : List Char) : List Char := trimWith isBlankChar cs

/-- The text without blank characters at its two ends. -/
def strip (s : String) : String := String.ofList (trim s.toList)

/-- A text is blank if it has no character but blank ones. -/
def isBlank (s : String) : Bool := s.toList.all isBlankChar

/-- Every blank character of the core library is blank. -/
theorem isBlankChar_of_isWhitespace {c : Char} (h : c.isWhitespace = true) :
    isBlankChar c = true := by
  simp only [Char.isWhitespace, Bool.or_eq_true, decide_eq_true_eq] at h
  rcases h with ((h | h) | h) | h <;> subst h <;> decide

/-! ## Trimming -/

variable {p : Char → Bool} {cs : List Char}

theorem dropWhile_eq_self (h : ∀ c, cs.head? = some c → p c = false) : cs.dropWhile p = cs := by
  cases cs with
  | nil => rfl
  | cons c rest => exact List.dropWhile_cons_of_neg (by rw [h c rfl]; exact Bool.false_ne_true)

/-- A list whose ends are not in the class stays as it is. -/
theorem trimWith_eq_self (first : ∀ c, cs.head? = some c → p c = false)
    (last : ∀ c, cs.getLast? = some c → p c = false) : trimWith p cs = cs := by
  unfold trimWith
  rw [dropWhile_eq_self first, dropWhile_eq_self (by rwa [List.head?_reverse]), List.reverse_reverse]

theorem of_head?_dropWhile {c : Char} (h : (cs.dropWhile p).head? = some c) : p c = false := by
  have hnot := List.head?_dropWhile_not p cs
  rwa [h] at hnot

/-- The ends of a trimmed list are not in the class. -/
theorem ends_trimWith (p : Char → Bool) (cs : List Char) :
    (∀ c, (trimWith p cs).head? = some c → p c = false) ∧
      ∀ c, (trimWith p cs).getLast? = some c → p c = false := by
  unfold trimWith
  refine ⟨fun c hc => ?_, fun c hc => ?_⟩
  · -- What is left at the end is a part from the start on.
    obtain ⟨es, hes⟩ : ((cs.dropWhile p).reverse.dropWhile p).reverse <+: cs.dropWhile p := by
      rw [← List.reverse_suffix, List.reverse_reverse]
      exact List.dropWhile_suffix p
    have hfirst : (cs.dropWhile p).head? = some c := by
      rw [← hes, List.head?_append, hc]
      rfl
    exact of_head?_dropWhile hfirst
  · rw [List.getLast?_reverse] at hc
    exact of_head?_dropWhile hc

@[simp] theorem trimWith_trimWith : trimWith p (trimWith p cs) = trimWith p cs :=
  trimWith_eq_self (ends_trimWith p cs).1 (ends_trimWith p cs).2

@[simp] theorem strip_strip (s : String) : strip (strip s) = strip s := by
  unfold strip trim
  rw [String.toList_ofList, trimWith_trimWith]

end Text
end Walkthrough
