/-
# Which headers are accepted

In a well-formed header each name and each number stands in one piece, with nothing but blanks around it
(`WellFormed`). Two things are accepted besides. Spaces are dropped before anything is looked at, so a space may
stand inside a name or a number, and a name may end in a line feed. These are the only ways in which an accepted
header is not well formed (`split_wellFormed_iff`): an item in which no space stands inside, and whose name does
not end in a line feed, is the name and the number that it binds (`contiguous_iff`).
-/

import Walkthrough.Proofs.Condition.Header

namespace Walkthrough
namespace Condition

open Text (isBlankChar)

variable {text : String} {headed : Headed} {entry : String × Int} {cs header item token part : List Char}

/-- **A token stands in one piece** in a part of a header: there are blanks around it and none in it. -/
structure StandsIn (token part : List Char) : Prop where
  trim_eq : Text.trim part = token
  filled : ∀ c ∈ token, isBlankChar c = false

/-- An item in which the name and the number of a binding stand in one piece. -/
def Contiguous (entry : String × Int) (item : List Char) : Prop :=
  ∃ name code token, item = name ++ '=' :: code ∧ StandsIn entry.1.toList name ∧ StandsIn token code ∧
    Number.readInt? (String.ofList token) = some entry.2

/-- What holds of every accepted header: different names, none of them that of a function, positive numbers, and an
expression behind it. -/
structure Accepted (headed : Headed) : Prop where
  distinct : headed.bindings.keys.Nodup
  named : ∀ name ∈ headed.bindings.keys,
    IsName name.toList ∨ ∃ cs, IsName cs ∧ name.toList = cs ++ ['\n']
  free : ∀ name ∈ headed.bindings.keys, Builtin.ofName? name = none
  positive : ∀ id ∈ headed.bindings.values, 0 < id
  body : headed.body ≠ []

/-- **A well-formed header**: besides, all that is bound is a name, and every item is in one piece. -/
structure WellFormed (header : List Char) (headed : Headed) : Prop extends Accepted headed where
  isName : ∀ name ∈ headed.bindings.keys, IsName name.toList
  contiguous : List.Forall₂ Contiguous headed.bindings.entries (headerItems header)

/-- Inside the parts of an item there is no space. -/
def Unbroken (item : List Char) : Prop := ∀ part ∈ Text.splitOnChar '=' item, ' ' ∉ Text.trim part

/-! ## Items -/

theorem IsName.filled (h : IsName cs) : ∀ c ∈ cs, isBlankChar c = false := fun c hc =>
  Text.isBlankChar_of_isWordChar (isWordChar_of_isLatinNameChar (h.forall c hc))

theorem StandsIn.space_not_mem (h : StandsIn token part) : ' ' ∉ Text.trim part := by
  intro hmem
  have hspace := h.filled ' ' (h.trim_eq ▸ hmem)
  exact absurd hspace (by decide)

/-- What is not blank and not in the token is not in the part either. -/
theorem StandsIn.not_mem {c : Char} (h : StandsIn token part) (hblank : isBlankChar c = false) (htoken : c ∉ token) :
    c ∉ part := by
  obtain ⟨before, after, hpart, hbefore, hafter⟩ := Text.exists_trimWith isBlankChar part
  have htrim : Text.trimWith isBlankChar part = token := h.trim_eq
  rw [hpart, htrim, List.mem_append, List.mem_append, not_or, not_or]
  refine ⟨fun hmem => ?_, htoken, fun hmem => ?_⟩
  · rw [hbefore c hmem] at hblank
    cases hblank
  · rw [hafter c hmem] at hblank
    cases hblank

/-- If there is no space inside a text, it is the same between its blanks with and without its spaces. -/
theorem trim_unspaced (h : ' ' ∉ Text.trim cs) : Text.trim (unspaced cs) = Text.trim cs := by
  obtain ⟨before, after, hcs, hbefore, hafter⟩ := Text.exists_trimWith isBlankChar cs
  have hparts : unspaced cs = unspaced before ++ (Text.trim cs ++ unspaced after) := by
    rw [← unspaced_of_not_mem h]
    conv_lhs => rw [hcs]
    rw [unspaced_append, unspaced_append]
    rfl
  have hbefore' : ∀ c ∈ unspaced before, isBlankChar c = true := fun c hc => hbefore c (List.mem_of_mem_filter hc)
  have hafter' : ∀ c ∈ unspaced after, isBlankChar c = true := fun c hc => hafter c (List.mem_of_mem_filter hc)
  rw [hparts, Text.trim, Text.trimWith_surrounded hbefore' hafter']
  exact Text.trimWith_trimWith

/-- An item that binds something without its spaces has two parts, with and without them. -/
theorem Binds.exists_parts (h : Binds entry (unspaced item)) : ∃ name code,
    Text.splitOnChar '=' item = [name, code] ∧ unspaced name = entry.1.toList ∧
      Number.readInt? (String.ofList (unspaced code)) = some entry.2 := by
  obtain ⟨code, hitem, hcode, hread⟩ := h.spelt
  have hpair : Text.splitOnChar '=' (unspaced item) = [entry.1.toList, code] :=
    Text.splitOnChar_eq_pair_iff.2 ⟨hitem, not_mem_of_isBindingName h.isName, hcode⟩
  rw [unspaced, Text.splitOnChar_filter rfl, List.map_eq_cons_iff] at hpair
  obtain ⟨name, rest, hparts, hname, hrest⟩ := hpair
  obtain ⟨part, rfl, hpart⟩ := List.map_eq_singleton_iff.1 hrest
  exact ⟨name, part, hparts, hname, by rwa [unspaced, hpart]⟩

/-- **When an item is in one piece**: it binds a name, and no space stands inside its parts, exactly if the
name does not end in a line feed and no space stands inside. -/
theorem contiguous_iff (h : Binds entry (unspaced item)) : IsName entry.1.toList ∧ Contiguous entry item ↔
    entry.1.toList.getLast? ≠ some '\n' ∧ Unbroken item := by
  obtain ⟨name, code, hpair, hname, hread⟩ := h.exists_parts
  obtain ⟨hitem, hfirst, -⟩ := Text.splitOnChar_eq_pair_iff.1 hpair
  have hunbroken : Unbroken item ↔ ' ' ∉ Text.trim name ∧ ' ' ∉ Text.trim code := by
    rw [Unbroken, hpair, List.forall_mem_cons, List.forall_mem_singleton]
  rw [hunbroken]
  constructor
  · rintro ⟨hisName, name', code', token, hitem', hname', hcode', -⟩
    -- The first equals sign is the same in both ways to write the item.
    have hsame : some (name, code) = some (name', code') := by
      rw [← Text.splitAt?_singleton_iff.2 ⟨hitem, hfirst⟩]
      exact Text.splitAt?_singleton_iff.2 ⟨hitem', hname'.not_mem rfl (hisName.not_mem rfl)⟩
    cases hsame
    exact ⟨fun hlast => hisName.not_mem rfl (List.mem_of_getLast? hlast), hname'.space_not_mem, hcode'.space_not_mem⟩
  · rintro ⟨hfeed, hinName, hinCode⟩
    have hisName : IsName entry.1.toList := by
      refine (isBindingName_iff.1 h.isName).resolve_right ?_
      rintro ⟨cs, -, hcs⟩
      exact hfeed (by rw [hcs, List.getLast?_concat])
    obtain ⟨hfilled, htrimmed⟩ := Number.readInt?_trim hread
    rw [trim_unspaced hinCode] at hfilled htrimmed
    refine ⟨hisName, name, code, Text.trim code, hitem, ⟨?_, hisName.filled⟩, ⟨rfl, hfilled⟩, htrimmed⟩
    rw [← trim_unspaced hinName, hname, Text.trim, Text.trimWith_of_forall hisName.filled]

/-! ## Headers -/

/-- What the items of a header bind, its spaces dropped, makes an accepted header. -/
theorem accepted_of_binds (hbody : headed.body ≠ [])
    (h : List.Forall₂ Binds headed.bindings.entries ((headerItems header).map unspaced)) : Accepted headed := by
  have hentries : ∀ entry ∈ headed.bindings.entries,
      isBindingName entry.1.toList = true ∧ Builtin.ofName? entry.1 = none ∧ 0 < entry.2 :=
    ((List.forall₂_and_left _ _).1 (h.imp fun _ _ hbinds =>
      ⟨⟨hbinds.isName, hbinds.free, hbinds.positive⟩, hbinds⟩)).1
  refine ⟨headed.bindings.nodup, ?_, ?_, ?_, hbody⟩
  · exact List.forall_mem_map.2 fun entry hmem => isBindingName_iff.1 (hentries entry hmem).1
  · exact List.forall_mem_map.2 fun entry hmem => (hentries entry hmem).2.1
  · exact List.forall_mem_map.2 fun entry hmem => (hentries entry hmem).2.2

theorem forall₂_contiguous_iff {entries : List (String × Int)} {items : List (List Char)}
    (h : List.Forall₂ (fun entry item => Binds entry (unspaced item)) entries items) :
    (∀ entry ∈ entries, IsName entry.1.toList) ∧ List.Forall₂ Contiguous entries items ↔
      (∀ entry ∈ entries, entry.1.toList.getLast? ≠ some '\n') ∧ ∀ item ∈ items, Unbroken item := by
  induction h with
  | nil => simp
  | cons hbinds _ ih =>
    have hfirst := contiguous_iff hbinds
    rw [List.forall_mem_cons, List.forall_mem_cons, List.forall_mem_cons, List.forall₂_cons]
    tauto

/-- No name of a header is that of a function. -/
theorem free_of_split (h : split text = .ok headed) :
    ∀ name ∈ headed.bindings.keys, Builtin.ofName? name = none := by
  by_cases hopens : OpensHeader (Text.trim text.toList)
  · obtain ⟨hbody, header, rest, -, -, -, hbinds⟩ := (split_eq_ok_iff hopens).1 h
    exact (accepted_of_binds hbody hbinds).free
  · rw [split_of_not_opensHeader hopens] at h
    cases h
    exact List.forall_mem_nil _

/-- An accepted header is well formed if no name ends in a line feed and no space stands inside an item. -/
theorem wellFormed_iff (hbody : headed.body ≠ [])
    (h : List.Forall₂ Binds headed.bindings.entries ((headerItems header).map unspaced)) :
    WellFormed header headed ↔ (∀ name ∈ headed.bindings.keys, name.toList.getLast? ≠ some '\n') ∧
      ∀ item ∈ headerItems header, Unbroken item := by
  have hitems := forall₂_contiguous_iff (List.forall₂_map_right_iff.1 h)
  have hkeys (P : String → Prop) :
      (∀ name ∈ headed.bindings.keys, P name) ↔ ∀ entry ∈ headed.bindings.entries, P entry.1 := List.forall_mem_map
  rw [hkeys fun name => name.toList.getLast? ≠ some '\n', ← hitems, ← hkeys fun name => IsName name.toList]
  exact ⟨fun hformed => ⟨hformed.isName, hformed.contiguous⟩, fun ⟨hname, hcontiguous⟩ =>
    ⟨accepted_of_binds hbody h, hname, hcontiguous⟩⟩

/-- **Which headers are accepted**: only such as bind different names to positive numbers in front of an expression,
none of the names being that of a function. They are well formed but for names that end in a line feed and
for spaces inside a name or a number. -/
theorem split_wellFormed_iff (h : split text = .ok headed) (hopens : OpensHeader (Text.trim text.toList)) :
    ∃ header rest, Text.trim text.toList = '(' :: (header ++ ')' :: rest) ∧ ')' ∉ header ∧
      headed.body = Text.trim rest ∧ Accepted headed ∧
      (WellFormed header headed ↔ (∀ name ∈ headed.bindings.keys, name.toList.getLast? ≠ some '\n') ∧
        ∀ item ∈ headerItems header, Unbroken item) := by
  obtain ⟨hbody, header, rest, htext, hclosed, hrest, hbinds⟩ := (split_eq_ok_iff hopens).1 h
  exact ⟨header, rest, htext, hclosed, hrest, accepted_of_binds hbody hbinds, wellFormed_iff hbody hbinds⟩

/-- A header with blanks of other kinds around its tokens. -/
theorem split_wellFormed_iff_tab :
    let headed : Headed := ⟨⟨[("a", 10), ("b_2", 11)], by decide⟩, "a > b_2".toList⟩
    split " (a =10,b_2= \t11\n) a > b_2" = .ok headed ∧
      OpensHeader (Text.trim " (a =10,b_2= \t11\n) a > b_2".toList) ∧
      ∃ header rest, Text.trim " (a =10,b_2= \t11\n) a > b_2".toList = '(' :: (header ++ ')' :: rest) ∧
        ')' ∉ header ∧ headed.body = Text.trim rest ∧ Accepted headed ∧
        (WellFormed header headed ↔ (∀ name ∈ headed.bindings.keys, name.toList.getLast? ≠ some '\n') ∧
          ∀ item ∈ headerItems header, Unbroken item) := by
  intro headed
  have hsplit : split " (a =10,b_2= \t11\n) a > b_2" = .ok headed := by rfl
  have hopens : OpensHeader (Text.trim " (a =10,b_2= \t11\n) a > b_2".toList) := by
    rw [← startsHeader_iff]
    decide
  exact ⟨hsplit, hopens, split_wellFormed_iff hsplit hopens⟩

/-- A text with spaces inside its items, and one with a name that ends in a line feed, are accepted. -/
theorem split_glued_fed :
    (∃ headed, split "(a=1, b c=2 0) bc > a" = .ok headed ∧ headed.bindings.entries = [("a", 1), ("bc", 20)] ∧
      ¬WellFormed "a=1, b c=2 0".toList headed) ∧
    ∃ headed, split "(a\n=1) True" = .ok headed ∧ headed.bindings.entries = [("a\n", 1)] ∧
      ¬WellFormed "a\n=1".toList headed := by
  have hglued : split "(a=1, b c=2 0) bc > a" = .ok ⟨⟨[("a", 1), ("bc", 20)], by decide⟩, "bc > a".toList⟩ := by
    rfl
  have hfed : split "(a\n=1) True" = .ok ⟨⟨[("a\n", 1)], by decide⟩, "True".toList⟩ := by rfl
  refine ⟨⟨_, hglued, rfl, fun hformed => ?_⟩, _, hfed, rfl, fun hformed => ?_⟩
  · have hbinds := bindings_eq_ok_iff.1 (show bindings (unspaced "a=1, b c=2 0".toList) =
      .ok ⟨[("a", 1), ("bc", 20)], by decide⟩ by rfl)
    have hunbroken := ((wellFormed_iff (by decide) hbinds).1 hformed).2 " b c=2 0".toList (by decide)
    exact hunbroken " b c".toList (by decide) (by decide)
  · have hbinds := bindings_eq_ok_iff.1 (show bindings (unspaced "a\n=1".toList) =
      .ok ⟨[("a\n", 1)], by decide⟩ by rfl)
    exact ((wellFormed_iff (by decide) hbinds).1 hformed).1 "a\n" (by decide) (by decide)

end Condition
end Walkthrough
