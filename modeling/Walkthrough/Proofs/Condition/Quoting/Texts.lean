/-
# Quoted texts and plain quotes

A text between single quotes is read as before once the typographic quotes in it are plain (`quotedBody?_single`), and
one between double quotes if there are none in it (`quotedBody?_double`). The text between single quotes stands for
the same characters but for the quotes (`quotedToken?_plainQuotes`), unless one of them stands right behind a backslash:
then the plain quote would become an escape.
-/

import Mathlib.Data.List.Chain
import Mathlib.Data.List.Forall2
import Walkthrough.Proofs.Condition.Quoting.Numbers

namespace Walkthrough
namespace Condition

open Predicate (plainQuotes)

variable {c d : Char} {cs rest : List Char}

/-- **Where a quoted text ends**: what stands before the mark, and what behind it. -/
inductive Ends (mark : List Char) (long : Bool) : List Char → List Char → List Char → Prop
  | stop {c : Char} {cs rest : List Char} (h : Text.afterMark? mark (c :: cs) = some rest) :
      Ends mark long (c :: cs) [] rest
  | escape {d : Char} {cs body rest : List Char} (h : Text.afterMark? mark ('\\' :: d :: cs) = none)
      (hrest : Ends mark long cs body rest) : Ends mark long ('\\' :: d :: cs) ('\\' :: d :: body) rest
  | step {c : Char} {cs body rest : List Char} (h : Text.afterMark? mark (c :: cs) = none) (hback : c ≠ '\\')
      (hfeed : c = '\n' → long = true) (hrest : Ends mark long cs body rest) : Ends mark long (c :: cs) (c :: body) rest

variable {mark body : List Char} {long : Bool}

theorem ends_of_upToQuote? (h : upToQuote? mark long cs = some (body, rest)) : Ends mark long cs body rest := by
  fun_induction upToQuote? mark long cs generalizing body with
  | case1 => cases h
  | case2 c cs rest' hafter =>
    cases h
    exact .stop hafter
  | case3 c hback d cs hafter ih =>
    obtain ⟨⟨tail, rest'⟩, htail, h⟩ := Option.map_eq_some_iff.1 h
    cases h
    obtain rfl := beq_iff_eq.1 hback
    exact .escape hafter (ih htail)
  | case4 c hafter hback => cases h
  | case5 c cs hafter hback hfeed => cases h
  | case6 c cs hafter hback hfeed ih =>
    obtain ⟨⟨tail, rest'⟩, htail, h⟩ := Option.map_eq_some_iff.1 h
    cases h
    refine .step hafter (mt beq_iff_eq.2 hback) ?_ (ih htail)
    rintro rfl
    simpa using hfeed

theorem Ends.upToQuote?_eq (h : Ends mark long cs body rest) : upToQuote? mark long cs = some (body, rest) := by
  induction h with
  | stop h =>
    unfold upToQuote?
    rw [h]
  | escape h hrest ih =>
    unfold upToQuote?
    rw [h]
    dsimp only
    rw [if_pos (beq_self_eq_true _), ih]
    rfl
  | @step c cs body rest h hback hfeed hrest ih =>
    unfold upToQuote?
    rw [h]
    dsimp only
    have hline : ¬(c == '\n' && !long) = true := by
      rw [Bool.and_eq_true, beq_iff_eq, Bool.not_eq_true']
      rintro ⟨rfl, hlong⟩
      rw [hfeed rfl] at hlong
      cases hlong
    rw [if_neg (mt beq_iff_eq.1 hback), if_neg hline, ih]
    rfl

/-- A quoted text is read from its body and the mark. -/
theorem Ends.eq_append (h : Ends mark long cs body rest) : cs = body ++ (mark ++ rest) := by
  induction h with
  | stop h =>
    rw [List.nil_append]
    exact Text.afterMark?_eq_some_iff.1 h
  | escape h hrest ih => rw [List.cons_append, List.cons_append, ← ih]
  | step h hback hfeed hrest ih => rw [List.cons_append, ← ih]

/-- Whether a text starts with a mark is seen in as many characters as the mark has. -/
theorem afterMark?_append (start : List Char) {rest' : List Char}
    (h : Text.afterMark? mark (start ++ rest) = none) (hlength : mark.length ≤ start.length) :
    Text.afterMark? mark (start ++ rest') = none := by
  rw [Text.afterMark?_eq_none_iff] at h ⊢
  intro hmark
  exact h ((List.prefix_of_prefix_length_le hmark (List.prefix_append start rest') hlength).trans
    (List.prefix_append start rest))

/-- A quoted text ends at the same place whatever follows. -/
theorem Ends.append {rest' : List Char} (hmark : mark ≠ []) (h : Ends mark long cs body rest) :
    Ends mark long (body ++ (mark ++ rest')) body rest' := by
  induction h with
  | stop h =>
    obtain ⟨m, marks, rfl⟩ := List.exists_cons_of_ne_nil hmark
    exact .stop (Text.afterMark?_eq_some_iff.2 rfl)
  | @escape d cs body rest h hrest ih =>
    rw [hrest.eq_append, ← List.append_assoc] at h
    rw [List.cons_append, List.cons_append]
    refine .escape ?_ ih
    rw [← List.append_assoc]
    exact afterMark?_append ('\\' :: d :: (body ++ mark)) h (by simp; omega)
  | @step c cs body rest h hback hfeed hrest ih =>
    rw [hrest.eq_append, ← List.append_assoc] at h
    rw [List.cons_append]
    refine .step ?_ hback hfeed ih
    rw [← List.append_assoc]
    exact afterMark?_append (c :: (body ++ mark)) h (by simp; omega)

/-- Up to a mark of other characters, quotes can be made plain. -/
theorem Ends.plain (hmark : IsUnquoted mark) (h : Ends mark long cs body rest) :
    Ends mark long (plainQuotes cs) (plainQuotes body) (plainQuotes rest) := by
  induction h with
  | @stop c cs rest h =>
    have hplain := afterMark?_plainQuotes hmark (c :: cs)
    rw [h] at hplain
    exact .stop hplain
  | @escape d cs body rest h hrest ih =>
    have hplain := afterMark?_plainQuotes hmark ('\\' :: d :: cs)
    rw [h] at hplain
    exact .escape hplain ih
  | @step c cs body rest h hback hfeed hrest ih =>
    have hplain := afterMark?_plainQuotes hmark (c :: cs)
    rw [h] at hplain
    exact .step hplain (mt (plainChar_eq_iff (by decide) rfl).1 hback)
      (fun heq => hfeed ((plainChar_eq_iff (by decide) rfl).1 heq)) ih

/-- What stands between quotes at the start of a text. -/
theorem quotedBody?_eq {q : Char} (h : quotedBody? (q :: cs) = some (body, rest)) :
    ∃ mark, mark ≠ [] ∧ (∀ c ∈ mark, c = q) ∧ q :: cs = mark ++ (body ++ (mark ++ rest)) := by
  unfold quotedBody? at h
  dsimp only at h
  split at h
  · next rest' hafter =>
    refine ⟨[q, q, q], by simp, by simp, ?_⟩
    rw [Text.afterMark?_eq_some_iff.1 hafter, (ends_of_upToQuote? h).eq_append]
  · refine ⟨[q], by simp, by simp, ?_⟩
    rw [(ends_of_upToQuote? h).eq_append]
    rfl

/-- **Between single quotes**, other quotes can be made plain. -/
theorem quotedBody?_single (h : quotedBody? ('\'' :: cs) = some (body, rest)) :
    quotedBody? (plainQuotes ('\'' :: cs)) = some (plainQuotes body, plainQuotes rest) := by
  have hone : IsUnquoted ['\''] := by decide
  have hthree : IsUnquoted ['\'', '\'', '\''] := by decide
  have hafter := afterMark?_plainQuotes hthree ('\'' :: cs)
  rw [plainQuotes_cons, show plainChar '\'' = '\'' from rfl] at hafter ⊢
  unfold quotedBody? at h ⊢
  dsimp only at h ⊢
  rw [hafter]
  split at h
  · next rest' hlong =>
    rw [hlong]
    exact ((ends_of_upToQuote? h).plain hthree).upToQuote?_eq
  · next hshort =>
    rw [hshort]
    exact ((ends_of_upToQuote? h).plain hone).upToQuote?_eq

/-- **Between double quotes** there must be no typographic ones, and none right behind them. -/
theorem quotedBody?_double (h : quotedBody? ('"' :: cs) = some (body, rest))
    (hbody : ∀ c ∈ body, isTypographic c = false) (hrest : ∀ c, rest.head? = some c → isTypographic c = false) :
    quotedBody? (plainQuotes ('"' :: cs)) = some (body, plainQuotes rest) := by
  unfold quotedBody? at h
  dsimp only at h
  split at h
  · next rest' hlong =>
    have hends := ends_of_upToQuote? h
    rw [Text.afterMark?_eq_some_iff.1 hlong, hends.eq_append, plainQuotes_append, plainQuotes_append,
      plainQuotes_append, plainQuotes_of_forall hbody]
    exact (hends.append (by simp)).upToQuote?_eq
  · next hshort =>
    have hends := ends_of_upToQuote? h
    have hplain : plainQuotes cs = body ++ ('"' :: plainQuotes rest) := by
      rw [hends.eq_append, plainQuotes_append, plainQuotes_append, plainQuotes_of_forall hbody]
      rfl
    have hnot : Text.afterMark? ['"', '"', '"'] ('"' :: plainQuotes cs) = none := by
      rw [hends.eq_append] at hshort
      rw [hplain]
      cases body with
      | nil =>
        cases rest with
        | nil => rfl
        | cons c rest =>
          rw [plainQuotes_cons, plainChar_of_not (hrest c rfl)]
          simpa [Text.afterMark?] using hshort
      | cons c body =>
        have hstart (tail : List Char) :
            '"' :: (c :: body ++ '"' :: tail) = ('"' :: c :: (body ++ ['"'])) ++ tail := by simp
        rw [List.singleton_append, hstart] at hshort
        rw [hstart]
        exact afterMark?_append _ hshort (by simp)
    rw [plainQuotes_cons, show plainChar '"' = '"' from rfl]
    unfold quotedBody?
    dsimp only
    rw [hnot, hplain]
    exact (hends.append (by simp)).upToQuote?_eq

/-! ## Escapes -/

/-- A character as it is, or with `may` a plain quote for a typographic one. -/
def PlainFor (may : Bool) (c d : Char) : Prop := d = c ∨ may = true ∧ isTypographic c = true ∧ d = '"'

/-- No typographic quote stands right behind a backslash. -/
def Unescaped (cs : List Char) : Prop := cs.IsChain fun c d => c = '\\' → isTypographic d = false

theorem plainFor_plainChar (c : Char) : PlainFor true c (plainChar c) := by
  unfold plainChar
  split
  · next h => exact .inr ⟨rfl, h, rfl⟩
  · exact .inl rfl

theorem forall₂_plainQuotes (cs : List Char) : List.Forall₂ (PlainFor true) cs (plainQuotes cs) := by
  rw [plainQuotes_eq, List.forall₂_map_right_iff, List.forall₂_same]
  exact fun c _ => plainFor_plainChar c

theorem octalNumber_plainQuotes (k count : Nat) (cs : List Char) : octalNumber k count (plainQuotes cs) =
    ((octalNumber k count cs).1, plainQuotes (octalNumber k count cs).2) := by
  induction count generalizing k cs with
  | zero => rfl
  | succ count ih =>
    cases cs with
    | nil => rfl
    | cons c cs =>
      have hclass : ('0' ≤ plainChar c ∧ plainChar c ≤ '7') ↔ '0' ≤ c ∧ c ≤ '7' :=
        iff_of_eq (plainChar_congr (fun c => '0' ≤ c ∧ c ≤ '7') (by decide) (by decide) c)
      rw [plainQuotes_cons, octalNumber, octalNumber]
      simp only [hclass]
      split
      · next hc =>
        rw [plainChar_of_class (p := fun c => decide ('0' ≤ c ∧ c ≤ '7')) rfl rfl (decide_eq_true hc), ih]
      · rfl

theorem octalNumber_suffix (k count : Nat) (cs : List Char) : (octalNumber k count cs).2 <:+ cs := by
  fun_induction octalNumber k count cs with
  | case1 => exact List.suffix_rfl
  | case2 => exact List.suffix_rfl
  | case3 k count c cs hc ih => exact ih.trans (List.suffix_cons c cs)
  | case4 => exact List.suffix_rfl

theorem hexNumber?_plainQuotes (k count : Nat) (cs : List Char) : hexNumber? k count (plainQuotes cs) =
    (hexNumber? k count cs).map fun (k, rest) => (k, plainQuotes rest) := by
  induction count generalizing k cs with
  | zero => rfl
  | succ count ih =>
    cases cs with
    | nil => rfl
    | cons c cs =>
      rw [plainQuotes_cons, hexNumber?, hexNumber?, plainChar_congr hexValue? (by decide) (by decide) c]
      cases hexValue? c with
      | none => rfl
      | some d => exact ih _ cs

theorem hexNumber?_suffix {k count : Nat} {p : Nat × List Char} (h : hexNumber? k count cs = some p) :
    p.2 <:+ cs := by
  fun_induction hexNumber? k count cs with
  | case1 =>
    cases h
    exact List.suffix_rfl
  | case2 => cases h
  | case3 k count c cs d hd ih => exact (ih h).trans (List.suffix_cons c cs)
  | case4 => cases h

/-- A character behind a backslash is plain already. -/
theorem Unescaped.plain_escape (h : Unescaped ('\\' :: c :: cs)) :
    plainQuotes ('\\' :: c :: cs) = '\\' :: c :: plainQuotes cs := by
  rw [plainQuotes_cons, plainQuotes_cons, plainChar_of_not ((List.isChain_cons_cons.1 h).1 rfl)]
  rfl

theorem Unescaped.tail (h : Unescaped (c :: cs)) : Unescaped cs := List.IsChain.tail h

/-- Names of characters have no quotes in them. -/
theorem isTypographic_of_named? {name : List Char} (h : Text.named? name = some d) :
    ∀ c ∈ name, isTypographic c = false := fun c hc =>
  isTypographic_of_class rfl rfl (List.all_eq_true.1 (Option.ite_none_right_eq_some.1 h).1 c hc)

theorem named?_plainQuotes (h : named? cs = some (d, rest)) :
    named? (plainQuotes cs) = some (d, plainQuotes rest) ∧ rest <:+ cs := by
  have hbrace : (fun c => plainChar c != '\x7d') = (· != '\x7d') := funext fun c =>
    plainChar_congr (· != '\x7d') (by decide) (by decide) c
  unfold named? at h
  split at h
  · next cs =>
    split at h
    · next c rest hdrop =>
      obtain ⟨d, hd, hrest⟩ := Option.map_eq_some_iff.1 h
      cases hrest
      have hname : plainQuotes (cs.takeWhile (· != '\x7d')) = cs.takeWhile (· != '\x7d') :=
        plainQuotes_of_forall (isTypographic_of_named? hd)
      have hbefore : (plainQuotes cs).takeWhile (· != '\x7d') = cs.takeWhile (· != '\x7d') := by
        rw [plainQuotes_eq, List.takeWhile_map, Function.comp_def, hbrace]
        exact hname
      have hafter : (plainQuotes cs).dropWhile (· != '\x7d') = plainChar c :: plainQuotes rest := by
        rw [plainQuotes_eq, List.dropWhile_map, Function.comp_def, hbrace, hdrop]
        rfl
      refine ⟨?_, ((List.suffix_cons c rest).trans (hdrop ▸ List.dropWhile_suffix _)).trans (List.suffix_cons _ cs)⟩
      rw [plainQuotes_cons, plainChar_of_not rfl, named?, hafter, hbefore]
      exact Option.map_eq_some_iff.2 ⟨d, hd, rfl⟩
    · cases h
  · cases h

/-- **Escapes** mean the same once the other quotes are plain. -/
theorem unescape?_plainQuotes {fuel : Nat} {out : List Char} (hchain : Unescaped cs)
    (h : unescape? false fuel cs = some out) :
    ∃ out', unescape? false fuel (plainQuotes cs) = some out' ∧ List.Forall₂ (PlainFor true) out out' := by
  fun_induction unescape? false fuel cs generalizing out with
  | case1 =>
    cases h
    exact ⟨[], rfl, .nil⟩
  | case2 =>
    cases h
    exact ⟨[], rfl, .nil⟩
  | case3 fuel c cs hfeed ih =>
    obtain ⟨out', hout, hrel⟩ := ih hchain.tail.tail h
    refine ⟨out', ?_, hrel⟩
    rw [hchain.plain_escape, unescape?, if_pos hfeed, hout]
  | case4 fuel c cs hfeed d hletter ih =>
    obtain ⟨more, hmore, rfl⟩ := Option.map_eq_some_iff.1 h
    obtain ⟨out', hout, hrel⟩ := ih hchain.tail.tail hmore
    refine ⟨d :: out', ?_, .cons (.inl rfl) hrel⟩
    rw [hchain.plain_escape, unescape?, if_neg hfeed, hletter]
    dsimp only
    rw [hout]
    rfl
  | case5 fuel c cs hfeed hletter hoctal n rest hn ih =>
    obtain ⟨d, hd, h⟩ := Option.bind_eq_some_iff.1 h
    obtain ⟨more, hmore, h⟩ := Option.bind_eq_some_iff.1 h
    cases h
    have hrest : rest <:+ c :: cs := by
      have hsuffix := octalNumber_suffix 0 3 (c :: cs)
      rwa [hn] at hsuffix
    obtain ⟨out', hout, hrel⟩ := ih (hchain.tail.suffix hrest) hmore
    refine ⟨d :: out', ?_, .cons (.inl rfl) hrel⟩
    have hplain := octalNumber_plainQuotes 0 3 (c :: cs)
    rw [plainQuotes_cons, plainChar_of_not ((List.isChain_cons_cons.1 hchain).1 rfl), hn] at hplain
    rw [hchain.plain_escape, unescape?, if_neg hfeed, hletter]
    dsimp only
    rw [if_pos hoctal, hplain]
    dsimp only
    rw [hd, Option.bind_eq_bind, Option.bind_some, hout]
    rfl
  | case6 fuel c cs hfeed hletter hoctal width hwidth ih =>
    obtain ⟨⟨n, rest⟩, hn, h⟩ := Option.bind_eq_some_iff.1 h
    obtain ⟨d, hd, h⟩ := Option.bind_eq_some_iff.1 h
    obtain ⟨more, hmore, h⟩ := Option.bind_eq_some_iff.1 h
    cases h
    obtain ⟨out', hout, hrel⟩ := ih rest (hchain.tail.tail.suffix (hexNumber?_suffix hn)) hmore
    refine ⟨d :: out', ?_, .cons (.inl rfl) hrel⟩
    rw [hchain.plain_escape, unescape?, if_neg hfeed, hletter]
    dsimp only
    rw [if_neg hoctal, hwidth]
    dsimp only
    rw [hexNumber?_plainQuotes, hn, Option.map_some, Option.bind_eq_bind, Option.bind_some]
    dsimp only
    rw [hd, Option.bind_eq_bind, Option.bind_some, hout]
    rfl
  | case7 fuel c cs hfeed hletter hoctal hwidth hnamed ih =>
    obtain ⟨⟨d, rest⟩, hd, h⟩ := Option.bind_eq_some_iff.1 h
    obtain ⟨more, hmore, h⟩ := Option.bind_eq_some_iff.1 h
    cases h
    obtain ⟨hplain, hsuffix⟩ := named?_plainQuotes hd
    obtain ⟨out', hout, hrel⟩ := ih rest (hchain.tail.tail.suffix hsuffix) hmore
    refine ⟨d :: out', ?_, .cons (.inl rfl) hrel⟩
    rw [hchain.plain_escape, unescape?, if_neg hfeed, hletter]
    dsimp only
    rw [if_neg hoctal, hwidth]
    dsimp only
    rw [if_pos hnamed, hplain, Option.bind_eq_bind, Option.bind_some]
    dsimp only
    rw [hout]
    rfl
  | case8 fuel c cs hfeed hletter hoctal hwidth hnamed ih =>
    obtain ⟨more, hmore, rfl⟩ := Option.map_eq_some_iff.1 h
    obtain ⟨out', hout, hrel⟩ := ih hchain.tail.tail hmore
    refine ⟨'\\' :: c :: out', ?_, .cons (.inl rfl) (.cons (.inl rfl) hrel)⟩
    rw [hchain.plain_escape, unescape?, if_neg hfeed, hletter]
    dsimp only
    rw [if_neg hoctal, hwidth]
    dsimp only
    rw [if_neg hnamed, hout]
    rfl
  | case9 fuel c cs hnot ih =>
    obtain ⟨more, hmore, rfl⟩ := Option.map_eq_some_iff.1 h
    obtain ⟨out', hout, hrel⟩ := ih hchain.tail hmore
    refine ⟨plainChar c :: out', ?_, .cons (plainFor_plainChar c) hrel⟩
    rw [plainQuotes_cons, unescape?, hout]
    · rfl
    · intro d ds hc hds
      obtain ⟨e, es, hes, -⟩ := List.map_eq_cons_iff.1 hds
      exact hnot e es ((plainChar_eq_iff (by decide) rfl).1 hc) hes

/-- The characters that a quoted text stands for. -/
def bodyValue? (kind : QuotedKind) (body : List Char) : Option (List Char) :=
  if kind.raw then some body else unescape? kind.bytes body.length body

theorem quotedToken?_eq (kind : QuotedKind) (body : List Char) : quotedToken? kind body =
    if kind.fields then (fields? body).map Token.formatted
    else if kind.bytes && body.any (fun c => c.toNat ≥ 128) then none
    else (bodyValue? kind body).map fun cs =>
      if kind.bytes then .bytes (cs.map fun c => c.toNat.toUInt8) else .text (String.ofList cs) := by
  unfold quotedToken? bodyValue?
  cases kind.raw
  · rw [if_neg Bool.false_ne_true]
    cases unescape? kind.bytes body.length body <;> rfl
  · rfl

theorem quotedToken?_eq_text_iff {kind : QuotedKind} {s : String} : quotedToken? kind body = some (.text s) ↔
    kind.fields = false ∧ kind.bytes = false ∧ ∃ cs, bodyValue? kind body = some cs ∧ s = String.ofList cs := by
  rw [quotedToken?_eq]
  constructor
  · intro h
    split at h
    · obtain ⟨parts, -, htoken⟩ := Option.map_eq_some_iff.1 h
      cases htoken
    · next hfields =>
      split at h
      · cases h
      · obtain ⟨cs, hcs, htoken⟩ := Option.map_eq_some_iff.1 h
        split at htoken
        · cases htoken
        · next hbytes =>
          cases htoken
          exact ⟨Bool.eq_false_iff.2 hfields, Bool.eq_false_iff.2 hbytes, cs, hcs, rfl⟩
  · rintro ⟨hfields, hbytes, cs, hcs, rfl⟩
    rw [hfields, hbytes, hcs]
    rfl

/-- Without typographic quotes behind backslashes, what a text stands for is the same but for quotes. -/
theorem quotedToken?_plainQuotes {kind : QuotedKind} {s : String} (hchain : Unescaped body)
    (h : quotedToken? kind body = some (.text s)) :
    ∃ s', quotedToken? kind (plainQuotes body) = some (.text s') ∧
      List.Forall₂ (PlainFor true) s.toList s'.toList := by
  obtain ⟨hfields, hbytes, cs, hcs, rfl⟩ := quotedToken?_eq_text_iff.1 h
  have hplain : ∃ cs', bodyValue? kind (plainQuotes body) = some cs' ∧ List.Forall₂ (PlainFor true) cs cs' := by
    unfold bodyValue? at hcs ⊢
    split at hcs
    · next hraw =>
      cases hcs
      exact ⟨_, if_pos hraw, forall₂_plainQuotes body⟩
    · next hraw =>
      rw [hbytes] at hcs ⊢
      rw [if_neg hraw, plainQuotes_eq, List.length_map]
      exact unescape?_plainQuotes hchain hcs
  obtain ⟨cs', hcs', hrel⟩ := hplain
  refine ⟨String.ofList cs', quotedToken?_eq_text_iff.2 ⟨hfields, hbytes, cs', hcs', rfl⟩, ?_⟩
  rwa [String.toList_ofList, String.toList_ofList]

end Condition
end Walkthrough
