/-
# Days and moments are read back

A day and a moment are read back from their texts (`Date.read?_text`, `DateTime.read?_text`), a moment
with its fraction of a second and its offset, whatever the separator of one character. Reading takes the
numbers of fixed width one after the other (`number?_padded`), and a clock by its pairs of digits
(`clock?_pair`).
-/

import Mathlib.Data.String.Basic
import Walkthrough.Calendar.Iso
import Walkthrough.Proofs.Number.Decimal

namespace Walkthrough
namespace Calendar

open Number (padded isDigit_padded length_padded ofDigitChars_padded)
open Text (ne_of_isDigit)

variable {n width : Nat} {rest : List Char}

/-! ## Numbers of fixed width -/

theorem number?_append {ds : List Char} (digits : ∀ c ∈ ds, c.isDigit = true) (value : Nat) :
    number? ds.length value (ds ++ rest) = some (Nat.ofDigitChars 10 ds value, rest) := by
  induction ds generalizing value with
  | nil => rfl
  | cons c ds ih =>
    rw [List.length_cons, List.cons_append, number?, if_pos (digits c List.mem_cons_self), Nat.mul_comm value,
      Nat.ofDigitChars_cons]
    exact ih (fun x hx => digits x (List.mem_cons_of_mem _ hx)) _

/-- **A number of fixed width** is read back, whatever follows. -/
theorem number?_padded (pos : 0 < width) (h : n < 10 ^ width) (rest : List Char) :
    number? width 0 ((padded width n).toList ++ rest) = some (n, rest) := by
  have hdigits : ∀ c ∈ (padded width n).toList, c.isDigit = true := fun _ => isDigit_padded
  have hread : number? (padded width n).toList.length 0 ((padded width n).toList ++ rest) = _ :=
    number?_append hdigits 0
  rwa [length_padded pos h, ofDigitChars_padded] at hread

theorem exists_cons_padded (pos : 0 < width) (h : n < 10 ^ width) :
    ∃ c cs, (padded width n).toList = c :: cs ∧ c.isDigit = true := by
  have hlength := length_padded pos h
  cases hcs : (padded width n).toList with
  | nil =>
    rw [hcs] at hlength
    exact absurd hlength (Nat.ne_of_lt pos)
  | cons c cs => exact ⟨c, cs, rfl, isDigit_padded (hcs ▸ List.mem_cons_self)⟩

/-! ## Days -/

theorem Date.bounds (d : Date) : d.year < 10 ^ 4 ∧ d.month < 10 ^ 2 ∧ d.day < 10 ^ 2 := by
  have hvalid := d.valid
  have hmonth : daysIn d.year d.month ≤ 31 := by
    unfold daysIn
    split_ifs <;> omega
  simp only [isDay, Bool.and_eq_true, decide_eq_true_eq] at hvalid
  omega

theorem Date.of?_self (d : Date) : Date.of? d.year d.month d.day = some d := dif_pos d.valid

theorem Date.toList_text (d : Date) :
    d.text.toList = (padded 4 d.year).toList ++ '-' :: ((padded 2 d.month).toList ++
      '-' :: (padded 2 d.day).toList) := by
  have hdash : "-".toList = ['-'] := rfl
  simp only [Date.text, String.toList_append, hdash, List.append_assoc, List.cons_append,
    List.nil_append]

theorem Date.length_text (d : Date) : d.text.toList.length = 10 := by
  obtain ⟨hyear, hmonth, hday⟩ := d.bounds
  rw [Date.toList_text]
  simp only [List.length_append, List.length_cons, length_padded (by decide : 0 < 4) hyear,
    length_padded (by decide : 0 < 2) hmonth, length_padded (by decide : 0 < 2) hday]

theorem Date.mem_text {d : Date} {c : Char} (h : c ∈ d.text.toList) : c = '-' ∨ c.isDigit = true := by
  rw [Date.toList_text] at h
  simp only [List.mem_append, List.mem_cons] at h
  rcases h with h | h | h | h | h
  · exact .inr (isDigit_padded h)
  · exact .inl h
  · exact .inr (isDigit_padded h)
  · exact .inl h
  · exact .inr (isDigit_padded h)

/-- The day at the start of a text. -/
theorem day?_text (d : Date) (rest : List Char) (length : Nat) :
    day? (d.text.toList ++ rest) length = some d := by
  obtain ⟨hyear, hmonth, hday⟩ := d.bounds
  obtain ⟨c, cs, hcs, hc⟩ := exists_cons_padded (by decide : 0 < 2) hmonth
  rw [Date.toList_text]
  simp only [List.append_assoc, List.cons_append]
  unfold day?
  rw [number?_padded (by decide) hyear]
  simp only [Option.bind_eq_bind, Option.bind_some]
  split
  · next heq =>
    rw [hcs] at heq
    exact absurd (List.cons.inj heq).1 (ne_of_isDigit hc rfl)
  · rw [number?_padded (by decide) hmonth]
    simp only [Option.bind_some, if_true, day?.afterHyphen?, number?_padded (by decide) hday, Date.of?_self]

/-- A text of characters below 128 has one byte for each. -/
theorem utf8ByteSize_of_latin {s : String} (h : ∀ c ∈ s.toList, c.toNat < 128) :
    s.utf8ByteSize = s.toList.length := by
  have hlist : ∀ {cs : List Char}, (∀ c ∈ cs, c.toNat < 128) → String.utf8Len cs = cs.length := by
    intro cs
    induction cs with
    | nil => exact fun _ => rfl
    | cons c cs ih =>
      intro h
      have hc : c.utf8Size = 1 := by
        rw [Char.utf8Size_eq_one_iff, UInt32.le_iff_toNat_le]
        exact Nat.le_of_lt_succ (h c List.mem_cons_self)
      rw [String.utf8Len_cons, ih fun x hx => h x (List.mem_cons_of_mem _ hx), hc, List.length_cons]
  rw [← hlist h, ← String.utf8ByteSize_ofList, String.ofList_toList]

/-- **Days are read back.** -/
theorem Date.read?_text (d : Date) : Date.read? d.text = some d := by
  have hlatin : ∀ c ∈ d.text.toList, c.toNat < 128 := fun c hc => by
    rcases Date.mem_text hc with rfl | hc
    · decide
    · exact Nat.lt_of_le_of_lt (Text.toNat_of_isDigit hc).2 (by decide)
  have hday := day?_text d [] 10
  rw [List.append_nil] at hday
  unfold Date.read?
  rw [utf8ByteSize_of_latin hlatin, d.length_text]
  exact hday

/-! ## Clocks -/

/-- The parts of a clock with one of them set: the hour, the minute or the second. -/
def Parts.put (parts : Parts) (component n : Nat) : Parts :=
  if component == 0 then { parts with hour := n }
  else if component == 1 then { parts with minute := n }
  else { parts with second := n }

section Clock

variable {parts : Parts} {colons : Bool} {stop left : Nat}

/-- **A pair of digits** of a clock: what is read next depends on what follows it. -/
theorem clock?_pair (h : n < 10 ^ 2) :
    clock? parts colons stop (left + 1) ((padded 2 n).toList ++ rest) =
      if rest.length ≤ stop + 1 then some (parts.put (2 - left) n, rest.isEmpty)
      else match rest with
        | c :: after =>
          let colons := if 2 - left == 0 then rest.head? == some ':' else colons
          if colons && c == ':' then clock? (parts.put (2 - left) n) colons stop left after
          else if c == '.' || c == ',' then fraction? (parts.put (2 - left) n) after stop
          else if !colons then clock? (parts.put (2 - left) n) colons stop left rest
          else none
        | [] => some (parts.put (2 - left) n, true) := by
  rw [clock?, number?_padded (by decide) h]
  rfl

/-- The last pair of digits. -/
theorem clock?_last (h : n < 10 ^ 2) (short : rest.length ≤ stop + 1) :
    clock? parts colons stop (left + 1) ((padded 2 n).toList ++ rest) =
      some (parts.put (2 - left) n, rest.isEmpty) := by
  rw [clock?_pair h, if_pos short]

/-- A pair of digits with a colon after it. -/
theorem clock?_colon (h : n < 10 ^ 2) (long : stop < rest.length) (hcolons : left = 2 ∨ colons = true) :
    clock? parts colons stop (left + 1) ((padded 2 n).toList ++ ':' :: rest) =
      clock? (parts.put (2 - left) n) true stop left rest := by
  have hlong : ¬(':' :: rest).length ≤ stop + 1 := by
    rw [List.length_cons]
    omega
  rw [clock?_pair h, if_neg hlong]
  rcases hcolons with rfl | rfl
  · rfl
  · dsimp only
    split <;> rfl

/-- The seconds with their fraction, which is left out if it is zero. -/
theorem clock?_seconds {second micro : Nat} (hsecond : second < 10 ^ 2) (hmicro : micro < 10 ^ 6)
    {zone : List Char} (hzone : ∀ c, zone.head? = some c → c.isDigit = false) :
    clock? parts true zone.length 1 ((padded 2 second).toList ++
        ((if micro == 0 then "" else "." ++ padded 6 micro).toList ++ zone)) =
      some ({ parts with second, micro := if micro = 0 then parts.micro else micro }, zone.isEmpty) := by
  by_cases hzero : micro = 0
  · subst hzero
    exact clock?_last hsecond (Nat.le_succ _)
  · have hdot : ("." ++ padded 6 micro).toList = '.' :: (padded 6 micro).toList := String.toList_append
    have hdigits := length_padded (by decide : 0 < 6) hmicro
    have hlong : ¬('.' :: ((padded 6 micro).toList ++ zone)).length ≤ zone.length + 1 := by
      rw [List.length_cons, List.length_append, hdigits]
      omega
    have hwidth : min 6 (((padded 6 micro).toList ++ zone).length - zone.length) = 6 := by
      rw [List.length_append, hdigits]
      omega
    rw [if_neg (by simpa using hzero), hdot, List.cons_append, clock?_pair hsecond, if_neg hlong]
    change fraction? _ _ _ = _
    unfold fraction?
    simp only [hwidth, number?_padded (by decide : 0 < 6) hmicro, Option.bind_eq_bind, Option.bind_some,
      Nat.sub_self, Nat.pow_zero, Nat.mul_one, Text.dropWhile_eq_self hzone, if_neg hzero]
    rfl

end Clock

/-! ## Times of day -/

section Time

variable (t : Time)

theorem Time.of?_self : Time.of? t.hour t.minute t.second t.micro = some t := dif_pos t.valid

theorem Time.toList_minuteText :
    t.minuteText.toList = (padded 2 t.hour).toList ++ ':' :: (padded 2 t.minute).toList := by
  have hcolon : ":".toList = [':'] := rfl
  simp only [Time.minuteText, String.toList_append, hcolon, List.append_assoc, List.cons_append,
    List.nil_append]

theorem Time.toList_text :
    t.text.toList = t.minuteText.toList ++ ':' :: ((padded 2 t.second).toList ++
      (if t.micro == 0 then "" else "." ++ padded 6 t.micro).toList) := by
  have hcolon : ":".toList = [':'] := rfl
  simp only [Time.text, String.toList_append, hcolon, List.append_assoc, List.cons_append, List.nil_append]

/-- The parts of a clock that shows a time. -/
def Time.parts : Parts := ⟨t.hour, t.minute, t.second, t.micro⟩

/-- **A clock with seconds** is read back, whatever stands behind it. -/
theorem clock?_text {zone : List Char} (hzone : ∀ c, zone.head? = some c → c.isDigit = false) :
    clock? {} false zone.length 3 (t.text.toList ++ zone) = some (t.parts, zone.isEmpty) := by
  obtain ⟨hhour, hminute, hsecond, hmicro⟩ := t.valid
  have hhour : t.hour < 10 ^ 2 := by omega
  have hminute : t.minute < 10 ^ 2 := by omega
  have hsecond : t.second < 10 ^ 2 := by omega
  rw [Time.toList_text, Time.toList_minuteText]
  simp only [List.append_assoc, List.cons_append]
  rw [clock?_colon hhour _ (.inl rfl), clock?_colon hminute _ (.inr rfl),
    clock?_seconds hsecond hmicro hzone]
  · by_cases hzero : t.micro = 0
    · rw [if_pos hzero]
      change some (Parts.mk t.hour t.minute t.second 0, _) = _
      rw [← hzero]
      rfl
    · rw [if_neg hzero]
      rfl
  · rw [List.length_append, List.length_append, length_padded (by decide) hsecond]
    omega
  · rw [List.length_append, List.length_cons, List.length_append, List.length_append]
    omega

/-- **A clock without seconds** is read back, with nothing behind it. -/
theorem clock?_minuteText :
    clock? {} false 0 3 t.minuteText.toList = some (⟨t.hour, t.minute, 0, 0⟩, true) := by
  obtain ⟨hhour, hminute, -, -⟩ := t.valid
  have hhour : t.hour < 10 ^ 2 := by omega
  have hminute : t.minute < 10 ^ 2 := by omega
  have hlast : clock? (Parts.put {} 0 t.hour) true 0 2 ((padded 2 t.minute).toList ++ []) = _ :=
    clock?_last hminute (by decide)
  rw [List.append_nil] at hlast
  rw [Time.toList_minuteText, clock?_colon hhour _ (.inl rfl), hlast]
  · rfl
  · rw [length_padded (by decide) hminute]
    decide

variable {t} {c : Char}

theorem Time.mem_minuteText (h : c ∈ t.minuteText.toList) : c = ':' ∨ c.isDigit = true := by
  rw [Time.toList_minuteText] at h
  simp only [List.mem_append, List.mem_cons] at h
  rcases h with h | h | h
  · exact .inr (isDigit_padded h)
  · exact .inl h
  · exact .inr (isDigit_padded h)

/-- A clock has colons, a point and digits. -/
theorem Time.mem_text (h : c ∈ t.text.toList) : c = ':' ∨ c = '.' ∨ c.isDigit = true := by
  rw [Time.toList_text] at h
  simp only [List.mem_append, List.mem_cons] at h
  rcases h with h | h | h | h
  · exact (Time.mem_minuteText h).imp_right .inr
  · exact .inl h
  · exact .inr (.inr (isDigit_padded h))
  · split at h
    · cases h
    · rw [String.toList_append] at h
      rcases List.mem_append.1 h with h | h
      · exact .inr (.inl (List.mem_singleton.1 h))
      · exact .inr (.inr (isDigit_padded h))

end Time

/-! ## Offsets -/

section Offset

variable (o : Offset)

theorem Offset.of?_self : Offset.of? o.micros = some o := dif_pos o.valid

/-- The sign of an offset. -/
def Offset.sign : Char := if o.micros < 0 then '-' else '+'

/-- The size of an offset: it is less than a day. -/
def Offset.size : Time where
  hour := o.micros.natAbs / 1000000 / 3600
  minute := o.micros.natAbs / 1000000 / 60 % 60
  second := o.micros.natAbs / 1000000 % 60
  micro := o.micros.natAbs % 1000000
  valid := by
    have := o.valid
    omega

/-- An offset is its size with its sign. -/
theorem Offset.of?_size :
    let seconds : Int := (o.size.hour * 60 + o.size.minute) * 60 + o.size.second
    let micros := seconds * 1000000 + o.size.micro
    Offset.of? (if o.sign == '-' then -micros else micros) = some o := by
  have hmicros : ((o.size.hour * 60 + o.size.minute) * 60 + o.size.second : Int) * 1000000 +
      o.size.micro = o.micros.natAbs := by
    dsimp only [size]
    omega
  intro seconds micros
  have hsigned : (if o.sign == '-' then -micros else micros) = o.micros := by
    change (if o.sign == '-' then -((_ : Int) * 1000000 + _) else (_ : Int) * 1000000 + _) = _
    rw [hmicros]
    unfold sign
    by_cases hneg : o.micros < 0
    · have hminus : ('-' == '-') = true := rfl
      rw [if_pos hneg, if_pos hminus]
      omega
    · have hplus : ¬('+' == '-') = true := by decide
      rw [if_neg hneg, if_neg hplus]
      omega
  rw [hsigned, o.of?_self]

/-- The clock that shows the size of an offset: the seconds are left out if they are zero. -/
def Offset.clockText : String :=
  if o.size.second == 0 && o.size.micro == 0 then o.size.minuteText else o.size.text

theorem Offset.toList_text : o.text.toList = o.sign :: o.clockText.toList := by
  have hsign : (if o.micros < 0 then "-" else "+").toList = [o.sign] := by
    unfold sign
    split <;> rfl
  have hempty : "".toList = [] := rfl
  simp only [Offset.text, clockText, String.toList_append, hsign, List.append_assoc, List.cons_append,
    List.nil_append]
  refine congrArg (o.sign :: ·) ?_
  change _ = (if o.micros.natAbs / 1000000 % 60 == 0 && o.micros.natAbs % 1000000 == 0 then
    o.size.minuteText else o.size.text).toList
  split
  · simp only [Time.minuteText, Offset.size, String.toList_append, List.append_assoc, hempty, List.append_nil]
  · simp only [Time.text, Time.minuteText, Offset.size, String.toList_append, List.append_assoc]
    rfl

/-- **The size of an offset** is read back. -/
theorem clock?_clockText : clock? {} false 0 3 o.clockText.toList = some (o.size.parts, true) := by
  unfold Offset.clockText
  split
  · next h =>
    have hzero : o.size.second = 0 ∧ o.size.micro = 0 := by simpa using h
    rw [clock?_minuteText, Time.parts, hzero.1, hzero.2]
  · have htext : clock? {} false 0 3 (o.size.text.toList ++ []) = some (o.size.parts, true) :=
      clock?_text o.size fun c hc => by cases hc
    rwa [List.append_nil] at htext

theorem Offset.mem_clockText {o : Offset} {c : Char} (h : c ∈ o.clockText.toList) :
    c = ':' ∨ c = '.' ∨ c.isDigit = true := by
  unfold clockText at h
  split at h
  · exact (Time.mem_minuteText h).imp_right .inr
  · exact Time.mem_text h

end Offset

/-! ## Moments -/

/-- The characters at which an offset begins. -/
def isZone (c : Char) : Bool := c == '+' || c == '-' || c == 'Z'

theorem not_isZone_of_clock {c : Char} (h : c = ':' ∨ c = '.' ∨ c.isDigit = true) : isZone c = false := by
  rcases h with rfl | rfl | h
  · rfl
  · rfl
  · simp only [isZone, Bool.or_eq_false_iff, beq_eq_false_iff_ne]
    exact ⟨⟨ne_of_isDigit h rfl, ne_of_isDigit h rfl⟩, ne_of_isDigit h rfl⟩

theorem isZone_sign (o : Offset) : isZone o.sign = true ∧ o.sign.isDigit = false ∧ o.sign ≠ 'Z' := by
  unfold Offset.sign
  split <;> decide

/-- What is behind the time of a moment is its offset. -/
theorem dropWhile_text (t : Time) {zone : List Char} (hzone : ∀ c, zone.head? = some c → isZone c = true) :
    (t.text.toList ++ zone).dropWhile (fun c => !isZone c) = zone := by
  rw [List.dropWhile_append_of_pos fun c hc => by rw [not_isZone_of_clock (Time.mem_text hc)]; rfl]
  exact Text.dropWhile_eq_self fun c hc => by rw [hzone c hc]; rfl

/-- **A time** is read back, with an offset behind it or nothing. -/
theorem time?_text (t : Time) (o : Option Offset) :
    time? (t.text.toList ++ ((o.map Offset.text).getD "").toList) = some (t, o) := by
  obtain ⟨zone, hz⟩ : ∃ zone, ((o.map Offset.text).getD "").toList = zone := ⟨_, rfl⟩
  have hzone : ∀ c, zone.head? = some c → isZone c = true ∧ c.isDigit = false := by
    rintro c hc
    cases o with
    | none => subst hz; cases hc
    | some o =>
      obtain rfl : o.sign :: o.clockText.toList = zone := o.toList_text.symm.trans hz
      obtain rfl : o.sign = c := Option.some.inj hc
      exact ⟨(isZone_sign o).1, (isZone_sign o).2.1⟩
  have hdrop := dropWhile_text t fun c hc => (hzone c hc).1
  have hclock := clock?_text t fun c hc => (hzone c hc).2
  rw [hz]
  generalize hcs : t.text.toList ++ zone = cs at hdrop hclock
  cases cs with
  | nil =>
    rw [Time.toList_text] at hcs
    simp at hcs
  | cons c cs =>
    unfold isZone at hdrop
    unfold time?
    dsimp only
    rw [hdrop, hclock]
    simp only [Option.bind_eq_bind, Option.bind_some, Time.parts, Time.of?_self]
    cases o with
    | none => subst hz; rfl
    | some o =>
      obtain rfl : o.sign :: o.clockText.toList = zone := o.toList_text.symm.trans hz
      split
      · next heq => cases heq
      · next heq => exact absurd (List.cons.inj heq).1 (isZone_sign o).2.2
      · next heq =>
        obtain ⟨rfl, rfl⟩ := List.cons.inj heq
        have hoffset := o.of?_size
        dsimp only at hoffset
        simp only [clock?_clockText, Option.bind_some, Time.parts, Bool.not_true, Bool.false_eq_true,
          if_false, hoffset]
        rfl

/-- Between day and time stands one character. -/
theorem DateTime.toList_text (t : DateTime) (separator : Char) :
    (t.text (String.singleton separator)).toList =
      t.date.text.toList ++ separator :: (t.time.text.toList ++ t.offsetText.toList) := by
  simp only [DateTime.text, String.toList_append, List.append_assoc, String.toList_singleton,
    List.cons_append, List.nil_append]

/-- A text that starts with a day as it is written has the day in its first ten characters. -/
theorem dayLength_text (d : Date) {rest : List Char} : dayLength (d.text.toList ++ rest) = 10 := by
  obtain ⟨hyear, hmonth, -⟩ := d.bounds
  obtain ⟨c, cs, hcs, hc⟩ := exists_cons_padded (by decide : 0 < 2) hmonth
  have hlength : (d.text.toList ++ rest).length = 10 + rest.length := by
    rw [List.length_append, d.length_text]
  have hat4 : (d.text.toList ++ rest)[4]? = some '-' := by
    rw [Date.toList_text, List.append_assoc, List.getElem?_append_right (by rw [length_padded (by decide) hyear]),
      length_padded (by decide) hyear]
    rfl
  have hat5 : (d.text.toList ++ rest)[5]? = some c := by
    rw [Date.toList_text, List.append_assoc,
      List.getElem?_append_right (by rw [length_padded (by decide) hyear]; decide),
      length_padded (by decide) hyear, hcs]
    rfl
  have hword : ¬c = 'W' := ne_of_isDigit hc rfl
  unfold dayLength
  simp only [hlength, hat4, hat5, Option.some_beq_some, beq_iff_eq, hword, if_false, if_true]
  rw [if_neg (by omega)]

/-- **Moments are read back**, with any character between day and time. -/
theorem DateTime.read?_text (t : DateTime) (separator : Char) :
    DateTime.read? (t.text (String.singleton separator)) = some t := by
  have hlong : ¬(t.date.text.toList ++ separator :: (t.time.text.toList ++ t.offsetText.toList)).length < 7 := by
    rw [List.length_append, t.date.length_text]
    omega
  have hdrop (rest : List Char) : (t.date.text.toList ++ rest).drop 10 = rest :=
    List.drop_left' t.date.length_text
  unfold DateTime.read?
  rw [DateTime.toList_text]
  dsimp only
  rw [if_neg hlong, dayLength_text, day?_text, hdrop]
  simp only [DateTime.offsetText, time?_text, Option.bind_eq_bind, Option.bind_some]
  rfl

/-! ## No blanks -/

theorem isBlankChar_of_clock {c : Char} (h : c = ':' ∨ c = '.' ∨ c.isDigit = true) :
    Text.isBlankChar c = false := by
  rcases h with rfl | rfl | h
  · rfl
  · rfl
  · exact Text.isBlankChar_of_isDigit h

theorem Date.isBlankChar_text {d : Date} {c : Char} (h : c ∈ d.text.toList) : Text.isBlankChar c = false := by
  rcases Date.mem_text h with rfl | h
  · rfl
  · exact Text.isBlankChar_of_isDigit h

theorem Date.strip_text (d : Date) : Text.strip d.text = d.text :=
  Text.strip_of_forall fun _ => Date.isBlankChar_text

theorem Offset.isBlankChar_text {o : Offset} {c : Char} (h : c ∈ o.text.toList) :
    Text.isBlankChar c = false := by
  rw [Offset.toList_text] at h
  rcases List.mem_cons.1 h with rfl | h
  · unfold sign
    split <;> rfl
  · exact isBlankChar_of_clock (Offset.mem_clockText h)

theorem DateTime.strip_text (t : DateTime) {separator : Char} (h : Text.isBlankChar separator = false) :
    Text.strip (t.text (String.singleton separator)) = t.text (String.singleton separator) := by
  refine Text.strip_of_forall fun c hc => ?_
  rw [DateTime.toList_text] at hc
  simp only [List.mem_append, List.mem_cons] at hc
  rcases hc with hc | rfl | hc | hc
  · exact Date.isBlankChar_text hc
  · exact h
  · exact isBlankChar_of_clock (Time.mem_text hc)
  · unfold offsetText at hc
    cases ho : t.offset with
    | none =>
      rw [ho] at hc
      cases hc
    | some o =>
      rw [ho] at hc
      exact Offset.isBlankChar_text hc

end Calendar
end Walkthrough
