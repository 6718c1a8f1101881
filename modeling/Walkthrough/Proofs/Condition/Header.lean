/-
# What a header is

A header starts with a bracket that is closed at once, or that a word and a single equals sign follow
(`OpensHeader`). It ends at the first closing bracket, and each of its items, its spaces apart, gives a name to a
property (`Binds`). A condition is split exactly if it does not start with a header, or else if all items do so,
no name occurs twice and some text follows (`split_eq_ok_iff`).
-/

import Mathlib.Data.List.Forall2
import Walkthrough.Condition.Header
import Walkthrough.Proofs.Number.Digits
import Walkthrough.Proofs.OrderedMap
import Walkthrough.Proofs.Text.Splitting

namespace Walkthrough

namespace Text

variable {c : Char}

/-- The numbers of the blank characters. -/
def blankCodes : List Nat :=
  List.range' 9 5 ++ List.range' 28 5 ++ List.range' 0x2000 11 ++
    [0x85, 0xA0, 0x1680, 0x2028, 0x2029, 0x202F, 0x205F, 0x3000]

theorem mem_blankCodes (h : isBlankChar c = true) : c.toNat ∈ blankCodes := by
  simp only [isBlankChar, Bool.or_eq_true, Bool.and_eq_true, decide_eq_true_eq, beq_iff_eq] at h
  simp only [blankCodes, List.mem_append, List.mem_range'_1, List.mem_cons, List.not_mem_nil]
  omega

/-- **No character of a word is blank.** -/
theorem isBlankChar_of_isWordChar (h : isWordChar c = true) : isBlankChar c = false := by
  have hall : ∀ n ∈ blankCodes, isWordChar (Char.ofNat n) = false := by decide +kernel
  by_contra hblank
  have hword := hall _ (mem_blankCodes (Bool.not_eq_false _ ▸ hblank))
  rw [Char.ofNat_toNat, h] at hword
  cases hword

end Text

namespace Condition

open Text (isBlankChar isWordChar)

variable {text : String} {cs header rest : List Char}

/-! ## Where a header starts -/

/-- A single equals sign, blanks before it. -/
def Assigns (cs : List Char) : Prop :=
  ∃ blanks rest, cs = blanks ++ '=' :: rest ∧ (∀ c ∈ blanks, isBlankChar c = true) ∧ rest.head? ≠ some '='

/-- **The start of a header**: a bracket that is closed at once, or that a word and a single equals sign
follow, with blanks between them. -/
inductive OpensHeader : List Char → Prop
  | closed {blanks rest : List Char} (h : ∀ c ∈ blanks, isBlankChar c = true) :
      OpensHeader ('(' :: (blanks ++ ')' :: rest))
  | assigned {blanks word rest : List Char} (h : ∀ c ∈ blanks, isBlankChar c = true) (nonempty : word ≠ [])
      (isWord : ∀ c ∈ word, isWordChar c = true) (assigns : Assigns rest) :
      OpensHeader ('(' :: (blanks ++ (word ++ rest)))

theorem dropWhile_append_cons {p : Char → Bool} {before rest : List Char} {c : Char}
    (h : ∀ d ∈ before, p d = true) (hc : p c = false) : (before ++ c :: rest).dropWhile p = c :: rest := by
  rw [List.dropWhile_append_of_pos h, List.dropWhile_cons_of_neg (by rw [hc]; exact Bool.false_ne_true)]

theorem eq_append_dropWhile (p : Char → Bool) (cs : List Char) :
    ∃ before, cs = before ++ cs.dropWhile p ∧ ∀ c ∈ before, p c = true :=
  ⟨cs.takeWhile p, List.takeWhile_append_dropWhile.symm, fun _ => List.mem_takeWhile_imp⟩

theorem assigns_iff : assigns cs = true ↔ Assigns cs := by
  constructor
  · intro h
    obtain ⟨blanks, hcs, hblanks⟩ := eq_append_dropWhile isBlankChar cs
    unfold assigns at h
    split at h
    · cases h
    · next rest hdouble hrest =>
      rw [hrest] at hcs
      refine ⟨blanks, rest, hcs, hblanks, fun hhead => ?_⟩
      cases rest with
      | nil => cases hhead
      | cons c rest => exact hdouble rest (by rw [show c = '=' from Option.some.inj hhead])
    · cases h
  · rintro ⟨blanks, rest, rfl, hblanks, hsingle⟩
    rw [assigns, dropWhile_append_cons hblanks rfl]
    split
    · next h => cases h; exact absurd rfl hsingle
    · rfl
    · next h => exact absurd rfl (h rest)

theorem startsHeader_iff : startsHeader cs = true ↔ OpensHeader cs := by
  constructor
  · intro h
    unfold startsHeader at h
    split at h
    · next cs =>
      obtain ⟨blanks, hcs, hblanks⟩ := eq_append_dropWhile isBlankChar cs
      split at h
      · next rest hrest => exact hcs ▸ hrest ▸ .closed hblanks
      · next c rest _ hrest =>
        rw [Bool.and_eq_true, assigns_iff] at h
        obtain ⟨word, hword, hall⟩ := eq_append_dropWhile isWordChar rest
        rw [hcs, hrest, hword, ← List.cons_append]
        exact .assigned hblanks (List.cons_ne_nil c word) (List.forall_mem_cons.2 ⟨h.1, hall⟩) h.2
      · cases h
    · cases h
  · rintro (@⟨blanks, rest, hblanks⟩ | @⟨blanks, word, rest, hblanks, hne, hword, hassigns⟩)
    · rw [startsHeader, dropWhile_append_cons hblanks rfl]
      rfl
    · obtain ⟨c, word, rfl⟩ := List.exists_cons_of_ne_nil hne
      rw [List.forall_mem_cons] at hword
      have hrest : (word ++ rest).dropWhile isWordChar = rest := by
        rw [List.dropWhile_append_of_pos hword.2]
        refine Text.dropWhile_eq_self fun d hd => ?_
        obtain ⟨gap, tail, rfl, hgap, -⟩ := hassigns
        cases gap with
        | nil => cases hd; rfl
        | cons e gap =>
          cases hd
          by_contra hd
          have hblank := Text.isBlankChar_of_isWordChar (Bool.not_eq_false _ ▸ hd)
          rw [hgap d List.mem_cons_self] at hblank
          cases hblank
      have hdrop : (blanks ++ (c :: word ++ rest)).dropWhile isBlankChar = c :: (word ++ rest) :=
        dropWhile_append_cons hblanks (Text.isBlankChar_of_isWordChar hword.1)
      rw [startsHeader, hdrop]
      split
      · next h => cases h; rfl
      · next h => cases h; rw [hrest, hword.1, assigns_iff.2 hassigns]; rfl
      · next h => cases h

/-! ## Names -/

/-- **A name**: a Latin letter or an underscore, and after it Latin letters, digits and underscores. -/
def IsName (cs : List Char) : Prop :=
  ∃ c rest, cs = c :: rest ∧ Text.isLatinNameStart c = true ∧ ∀ d ∈ rest, Text.isLatinNameChar d = true

/-- A name of a header is a name, or a name and a line feed. -/
theorem isBindingName_iff :
    isBindingName cs = true ↔ IsName cs ∨ ∃ name, IsName name ∧ cs = name ++ ['\n'] := by
  constructor
  · intro h
    unfold isBindingName at h
    split at h
    · next c rest =>
      rw [Bool.and_eq_true] at h
      obtain ⟨before, hrest, hall⟩ := eq_append_dropWhile Text.isLatinNameChar rest
      obtain ⟨hstart, h⟩ := h
      split at h
      · next hnil =>
        rw [hnil, List.append_nil] at hrest
        exact .inl ⟨c, rest, rfl, hstart, hrest ▸ hall⟩
      · next hfeed => exact .inr ⟨c :: before, ⟨c, before, rfl, hstart, hall⟩, by rw [hrest, hfeed]; rfl⟩
      · cases h
    · cases h
  · rintro (⟨c, rest, rfl, hstart, hall⟩ | ⟨_, ⟨c, rest, rfl, hstart, hall⟩, rfl⟩)
    · rw [isBindingName, hstart, List.dropWhile_eq_nil_iff.2 hall]
      rfl
    · rw [List.cons_append, isBindingName, hstart, dropWhile_append_cons hall rfl]
      rfl

theorem ne_of_isLatinNameChar {c d : Char} (h : Text.isLatinNameChar c = true)
    (hd : Text.isLatinNameChar d = false) : c ≠ d := by
  rintro rfl
  rw [h] at hd
  cases hd

theorem isLatinNameChar_of_start {c : Char} (h : Text.isLatinNameStart c = true) :
    Text.isLatinNameChar c = true := by
  simp only [Text.isLatinNameStart, Text.isLatinNameChar, Char.isAlphanum, Bool.or_eq_true] at h ⊢
  tauto

theorem isWordChar_of_isLatinNameChar {c : Char} (h : Text.isLatinNameChar c = true) : isWordChar c = true := by
  have hbounds : c.isAlphanum = (decide ('A'.val ≤ c.val ∧ c.val ≤ 'Z'.val) ||
      decide ('a'.val ≤ c.val) && decide (c.val ≤ 'z'.val) ||
      decide ('0'.val ≤ c.val) && decide (c.val ≤ '9'.val)) := rfl
  have hlatin : c.toNat < 128 := by
    rw [Text.isLatinNameChar, hbounds] at h
    simp only [Bool.or_eq_true, Bool.and_eq_true, decide_eq_true_eq, beq_iff_eq, UInt32.le_iff_toNat_le] at h
    rcases h with ((h | h) | h) | rfl
    · exact Nat.lt_of_le_of_lt h.2 (by decide)
    · exact Nat.lt_of_le_of_lt h.2 (by decide)
    · exact Nat.lt_of_le_of_lt h.2 (by decide)
    · decide
  rw [isWordChar, if_pos hlatin, h]

theorem IsName.forall (h : IsName cs) : ∀ c ∈ cs, Text.isLatinNameChar c = true := by
  obtain ⟨c, rest, rfl, hstart, hall⟩ := h
  exact List.forall_mem_cons.2 ⟨isLatinNameChar_of_start hstart, hall⟩

theorem IsName.ne_nil (h : IsName cs) : cs ≠ [] := by
  obtain ⟨c, rest, rfl, -⟩ := h
  exact List.cons_ne_nil c rest

theorem IsName.not_mem {d : Char} (h : IsName cs) (hd : Text.isLatinNameChar d = false) : d ∉ cs := fun hmem =>
  ne_of_isLatinNameChar (h.forall d hmem) hd rfl

theorem not_mem_of_isBindingName (h : isBindingName cs = true) : '=' ∉ cs := by
  rcases isBindingName_iff.1 h with hname | ⟨name, hname, rfl⟩
  · exact hname.not_mem rfl
  · rw [List.mem_append, not_or]
    exact ⟨hname.not_mem rfl, by decide⟩

/-! ## Items and headers -/

/-- **An item of a header gives a name to a property**: the name, an equals sign and the number. -/
structure Binds (entry : String × Int) (item : List Char) : Prop where
  isName : isBindingName entry.1.toList = true
  free : Builtin.ofName? entry.1 = none
  positive : 0 < entry.2
  spelt : ∃ code, item = entry.1.toList ++ '=' :: code ∧ '=' ∉ code ∧
    Number.readInt? (String.ofList code) = some entry.2

theorem bindingId?_eq_some_iff {s : String} {id : Int} :
    bindingId? s = some id ↔ Number.readInt? s = some id ∧ 0 < id := by
  rw [bindingId?, Option.filter_eq_some_iff, decide_eq_true_iff]

/-- An item adds the binding that it states, if the name is new. -/
theorem bind_eq_ok_iff {before after : OrderedMap String Int} : bind before item = .ok after ↔
    ∃ entry, Binds entry item ∧ before.contains entry.1 = false ∧ after = before.insert entry.1 entry.2 := by
  unfold bind
  constructor
  · intro h
    split at h
    · next name code hpair =>
      obtain ⟨rfl, -, hcode⟩ := Text.splitOnChar_eq_pair_iff.1 hpair
      dsimp only at h
      split at h
      · cases h
      · next hname =>
        simp only [Bool.or_eq_true, Bool.not_eq_true', not_or, Bool.not_eq_false, Bool.not_eq_true,
          Option.isSome_eq_false_iff, Option.isNone_iff_eq_none] at hname
        split at h
        · cases h
        · next hnew =>
          split at h
          · next id hid =>
            cases h
            obtain ⟨hread, hpos⟩ := bindingId?_eq_some_iff.1 hid
            refine ⟨(String.ofList name, id), ⟨?_, hname.2, hpos, code, ?_, hcode, hread⟩,
              Bool.eq_false_iff.2 hnew, rfl⟩
            · rw [String.toList_ofList]
              exact hname.1
            · rw [String.toList_ofList]
          · cases h
    · cases h
  · rintro ⟨⟨name, id⟩, ⟨hname, hfree, hpos, code, rfl, hcode, hread⟩, hnew, rfl⟩
    rw [Text.splitOnChar_eq_pair_iff.2 ⟨rfl, not_mem_of_isBindingName hname, hcode⟩]
    dsimp only at hname hfree hnew ⊢
    rw [String.ofList_toList, hname, hfree, hnew, bindingId?_eq_some_iff.2 ⟨hread, hpos⟩]
    rfl

/-- Items add the bindings that they state, in turn. -/
theorem foldlM_bind_eq_ok_iff {items : List (List Char)} {before after : OrderedMap String Int} :
    items.foldlM bind before = .ok after ↔
      ∃ entries, after.entries = before.entries ++ entries ∧ List.Forall₂ Binds entries items := by
  induction items generalizing before with
  | nil =>
    rw [List.foldlM_nil]
    constructor
    · intro h
      cases h
      exact ⟨[], (List.append_nil _).symm, .nil⟩
    · rintro ⟨entries, hafter, hentries⟩
      cases hentries
      rw [OrderedMap.ext (hafter.trans (List.append_nil _))]
      rfl
  | cons item items ih =>
    rw [List.foldlM_cons]
    constructor
    · intro h
      cases hitem : bind before item with
      | error cause =>
        rw [hitem] at h
        cases h
      | ok next =>
        rw [hitem] at h
        obtain ⟨entries, hafter, hentries⟩ := ih.1 h
        obtain ⟨entry, hentry, hnew, rfl⟩ := bind_eq_ok_iff.1 hitem
        refine ⟨entry :: entries, ?_, .cons hentry hentries⟩
        have hkey : entry.1 ∉ before.keys := by
          rw [OrderedMap.mem_keys_iff, ← OrderedMap.contains_iff, hnew]
          exact Bool.false_ne_true
        have hinsert : (before.insert entry.1 entry.2).entries = before.entries ++ [entry] :=
          OrderedMap.put_of_not_mem hkey
        rw [hafter, hinsert, List.append_assoc]
        rfl
    · rintro ⟨entries, hafter, hentries⟩
      cases hentries with
      | @cons entry _ entries _ hentry hentries =>
        obtain ⟨hnew, hinsert, -⟩ := OrderedMap.insert_new (hafter ▸ after.nodup) entry.2
        rw [bind_eq_ok_iff.2 ⟨entry, hentry, hnew, rfl⟩]
        refine ih.2 ⟨entries, ?_, hentries⟩
        rw [hafter, hinsert, List.append_assoc]
        rfl

/-- The items of the text between the brackets of a header, at the commas; between brackets with nothing but
spaces there are none. -/
def headerItems (header : List Char) : List (List Char) :=
  if header.all (· == ' ') then [] else Text.splitOnChar ',' header

/-- A text without its spaces. -/
def unspaced (cs : List Char) : List Char := cs.filter (· != ' ')

@[simp] theorem unspaced_append (cs ds : List Char) : unspaced (cs ++ ds) = unspaced cs ++ unspaced ds :=
  List.filter_append ..

theorem unspaced_cons {c : Char} (h : c ≠ ' ') (cs : List Char) : unspaced (c :: cs) = c :: unspaced cs :=
  List.filter_cons_of_pos (by simpa using h)

theorem unspaced_of_not_mem (h : ' ' ∉ cs) : unspaced cs = cs := by
  rw [unspaced, List.filter_eq_self]
  rintro c hc
  rw [bne_iff_ne]
  rintro rfl
  exact h hc

/-- Spaces can be dropped before a header is divided into items or afterwards. -/
theorem map_unspaced_headerItems (header : List Char) : (headerItems header).map unspaced =
    if (unspaced header).isEmpty then [] else Text.splitOnChar ',' (unspaced header) := by
  have hempty : (unspaced header).isEmpty = header.all (· == ' ') := by
    rw [Bool.eq_iff_iff, List.isEmpty_iff, unspaced, List.filter_eq_nil_iff, List.all_eq_true]
    simp
  rw [hempty, headerItems]
  split
  · rfl
  · exact (Text.splitOnChar_filter rfl header).symm

/-- **The bindings of a header** are those that its items state, in turn. -/
theorem bindings_eq_ok_iff {found : OrderedMap String Int} : bindings (unspaced header) = .ok found ↔
    List.Forall₂ Binds found.entries ((headerItems header).map unspaced) := by
  rw [map_unspaced_headerItems, bindings]
  split
  · constructor
    · intro h
      cases h
      exact .nil
    · intro h
      have hfound : OrderedMap.empty = found := OrderedMap.ext (List.forall₂_nil_right_iff.1 h).symm
      rw [hfound]
  · rw [foldlM_bind_eq_ok_iff]
    simp [OrderedMap.empty]

/-! ## Splitting -/

/-- A text that does not start with a header is its own expression. -/
theorem split_of_not_opensHeader (h : ¬OpensHeader (Text.trim text.toList)) :
    split text = .ok ⟨.empty, Text.trim text.toList⟩ := by
  have hstarts : startsHeader (Text.trim text.toList) = false := Bool.eq_false_iff.2 (mt startsHeader_iff.1 h)
  rw [split, hstarts]
  rfl

/-- A header ends at the first closing bracket, and an expression follows. -/
theorem split_of_opensHeader (h : OpensHeader (Text.trim text.toList))
    (htext : Text.trim text.toList = '(' :: (header ++ ')' :: rest)) (hclosed : ')' ∉ header) :
    split text = (bindings (unspaced header) >>= fun found =>
      if (Text.trim rest).isEmpty then .error .emptyExpression else .ok ⟨found, Text.trim rest⟩) := by
  have hsplit : Text.splitAt? [')'] (header ++ ')' :: rest) = some (header, rest) :=
    Text.splitAt?_singleton_iff.2 ⟨rfl, hclosed⟩
  have hstarts := startsHeader_iff.2 h
  rw [htext] at hstarts
  unfold split
  dsimp only
  rw [htext, hstarts, Bool.not_true, if_neg Bool.false_ne_true, List.drop_succ_cons, List.drop_zero, hsplit]
  rfl

theorem split_of_unclosed (h : OpensHeader (Text.trim text.toList)) (hclosed : ')' ∉ Text.trim text.toList) :
    split text = .error .unclosedHeader := by
  have hsplit : Text.splitAt? [')'] ((Text.trim text.toList).drop 1) = none := by
    rw [Option.eq_none_iff_forall_ne_some]
    rintro ⟨before, after⟩ hsome
    refine hclosed (List.drop_subset 1 _ ?_)
    rw [(Text.splitAt?_singleton_iff.1 hsome).1]
    exact List.mem_append_right _ List.mem_cons_self
  unfold split
  dsimp only
  rw [startsHeader_iff.2 h, Bool.not_true, if_neg Bool.false_ne_true, hsplit]

/-- **What it takes to split a condition with a header**: the header ends at the first closing bracket, its items
state the bindings, and some text follows. -/
theorem split_eq_ok_iff (h : OpensHeader (Text.trim text.toList)) {headed : Headed} :
    split text = .ok headed ↔ headed.body ≠ [] ∧ ∃ header rest,
      Text.trim text.toList = '(' :: (header ++ ')' :: rest) ∧ ')' ∉ header ∧ headed.body = Text.trim rest ∧
      List.Forall₂ Binds headed.bindings.entries ((headerItems header).map unspaced) := by
  obtain ⟨found, body⟩ := headed
  constructor
  · intro hsplit
    by_cases hmem : ')' ∈ Text.trim text.toList
    · obtain ⟨tail, htail⟩ : ∃ tail, Text.trim text.toList = '(' :: tail := by
        generalize Text.trim text.toList = stripped at h
        cases h <;> exact ⟨_, rfl⟩
      rw [htail, List.mem_cons, or_iff_right (by decide)] at hmem
      obtain ⟨header, rest, rfl, hclosed⟩ := List.eq_append_cons_of_mem hmem
      rw [split_of_opensHeader h htail hclosed] at hsplit
      cases hbindings : bindings (unspaced header) with
      | error cause =>
        rw [hbindings] at hsplit
        cases hsplit
      | ok m =>
        rw [hbindings] at hsplit
        change (if (Text.trim rest).isEmpty = true then Except.error ConditionFault.emptyExpression
          else Except.ok (Headed.mk m (Text.trim rest))) = .ok ⟨found, body⟩ at hsplit
        split at hsplit
        · cases hsplit
        · next hfull =>
          cases hsplit
          exact ⟨mt List.isEmpty_iff.2 hfull, header, rest, htail, hclosed, rfl, bindings_eq_ok_iff.1 hbindings⟩
    · rw [split_of_unclosed h hmem] at hsplit
      cases hsplit
  · rintro ⟨hbody, header, rest, htext, hclosed, rfl, hbinds⟩
    rw [split_of_opensHeader h htext hclosed, bindings_eq_ok_iff.2 hbinds]
    exact if_neg (mt List.isEmpty_iff.1 hbody)

end Condition
end Walkthrough
