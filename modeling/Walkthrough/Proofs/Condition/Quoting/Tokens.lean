/-
# Tokens and plain quotes

A condition is read token by token, and each token is kept with the text that it is written as (`lexemes?`). If
typographic quotes stand in no token but texts between single quotes (`Guarded`), the same tokens are read once
they are plain, but for the quotes in these texts (`tokens?_plainQuotes`).
-/

import Mathlib.Data.List.TakeWhile
import Walkthrough.Proofs.Condition.Quoting.Texts

namespace Walkthrough
namespace Condition

open Predicate (plainQuotes)

variable {c d : Char} {cs rest body : List Char}

/-! ## Signs and words -/

theorem isUnquoted_table : ∀ e ∈ Sign.table, IsUnquoted e.1 := by decide

/-- Where a sign of a table stands in front of a text, it also does once the quotes are plain. -/
theorem findSome?_plainQuotes {table : List (List Char × Sign)} (h : ∀ e ∈ table, IsUnquoted e.1) (cs : List Char) :
    (table.findSome? fun (mark, s) => (Text.afterMark? mark (plainQuotes cs)).map fun rest => (s, rest)) =
      (table.findSome? fun (mark, s) => (Text.afterMark? mark cs).map fun rest => (s, rest)).map
        fun (s, rest) => (s, plainQuotes rest) := by
  induction table with
  | nil => rfl
  | cons e table ih =>
    obtain ⟨he, htable⟩ := List.forall_mem_cons.1 h
    obtain ⟨mark, s⟩ := e
    rw [List.findSome?_cons, List.findSome?_cons, ih htable]
    dsimp only
    rw [afterMark?_plainQuotes he]
    cases Text.afterMark? mark cs <;> rfl

theorem sign?_plainQuotes (cs : List Char) :
    sign? (plainQuotes cs) = (sign? cs).map fun (s, rest) => (s, plainQuotes rest) :=
  findSome?_plainQuotes isUnquoted_table cs

theorem isNameLike_of_isTypographic (h : isTypographic c = true) : isNameLike c = true := by
  rcases isTypographic_iff.1 h with rfl | rfl <;> decide

/-- A word without typographic quotes ends at the same place once the quotes are plain. -/
theorem takeWhile_isNameLike_plainQuotes (h : ∀ c ∈ cs.takeWhile isNameLike, isTypographic c = false) :
    (plainQuotes cs).takeWhile isNameLike = cs.takeWhile isNameLike ∧
      (plainQuotes cs).dropWhile isNameLike = plainQuotes (cs.dropWhile isNameLike) := by
  induction cs with
  | nil => exact ⟨rfl, rfl⟩
  | cons c cs ih =>
    by_cases hc : isNameLike c = true
    · rw [List.takeWhile_cons_of_pos hc, List.forall_mem_cons] at h
      obtain ⟨htake, hdrop⟩ := ih h.2
      rw [plainQuotes_cons, plainChar_of_not h.1, List.takeWhile_cons_of_pos hc, List.takeWhile_cons_of_pos hc,
        List.dropWhile_cons_of_pos hc, List.dropWhile_cons_of_pos hc, htake]
      exact ⟨rfl, hdrop⟩
    · have hplain : plainChar c = c :=
        plainChar_of_not (Bool.eq_false_iff.2 (mt isNameLike_of_isTypographic hc))
      rw [plainQuotes_cons, hplain, List.takeWhile_cons_of_neg hc, List.takeWhile_cons_of_neg hc,
        List.dropWhile_cons_of_neg hc, List.dropWhile_cons_of_neg hc, plainQuotes_cons, hplain]
      exact ⟨rfl, rfl⟩

theorem isTypographic_of_isNameStart (h : Text.isNameStart c = true) : isTypographic c = false :=
  isTypographic_of_class (by decide +kernel) (by decide +kernel) h

theorem isTypographic_of_isNameChar (h : Text.isNameChar c = true) : isTypographic c = false :=
  isTypographic_of_class (by decide +kernel) (by decide +kernel) h

theorem isTypographic_of_wordToken? {word : List Char} {t : Token} (h : wordToken? word = some t) :
    ∀ c ∈ word, isTypographic c = false := by
  unfold wordToken? at h
  split at h
  · cases h
  · next c rest =>
    obtain ⟨hchars, -⟩ := Option.ite_none_right_eq_some.1 h
    rw [Bool.and_eq_true, List.all_eq_true] at hchars
    exact List.forall_mem_cons.2 ⟨isTypographic_of_isNameStart hchars.1, fun d hd =>
      isTypographic_of_isNameChar (hchars.2 d hd)⟩

/-- The letters in front of a quoted text. -/
theorem subset_of_kind {letters : List Char} {kind : QuotedKind} (h : QuotedKind.of? letters = some kind) :
    letters.map Char.toLower ⊆ ['u', 'r', 'b', 'f'] := by
  unfold QuotedKind.of? at h
  split at h <;> first
    | next heq =>
      rw [heq]
      decide
    | cases h

theorem isTypographic_of_kind {letters : List Char} {kind : QuotedKind} (h : QuotedKind.of? letters = some kind) :
    ∀ c ∈ letters, isTypographic c = false := fun _ hc =>
  isTypographic_of_class (p := fun c => ['u', 'r', 'b', 'f'].contains c.toLower) rfl rfl
    (List.contains_iff_mem.2 (subset_of_kind h (List.mem_map_of_mem hc)))

/-! ## Tokens -/

/-- **The same token but for quotes** in its text. -/
inductive Token.Plainer (may : Bool) : Token → Token → Prop
  | same (t : Token) : Token.Plainer may t t
  | text {s s' : String} (h : List.Forall₂ (PlainFor may) s.toList s'.toList) : Token.Plainer may (.text s) (.text s')

/-- The first quote of a text. -/
def firstQuote? (cs : List Char) : Option Char := cs.find? fun c => c == '"' || c == '\''

/-- **A token holds no typographic quotes**, or else with `may` it is a text between single ones, and there are none
right behind a backslash. -/
def Guarded (may : Bool) (t : Token) (cs : List Char) : Prop :=
  (∀ c ∈ cs, isTypographic c = false) ∨
    may = true ∧ (∃ s, t = .text s) ∧ firstQuote? cs = some '\'' ∧ Unescaped cs

variable {may : Bool} {kind : QuotedKind} {t : Token} {start : List Char}

/-- What was read of a text of which `rest` is left. -/
def consumed (cs rest : List Char) : List Char := cs.take (cs.length - rest.length)

theorem consumed_append (start rest : List Char) : consumed (start ++ rest) rest = start := by
  rw [consumed, List.length_append, Nat.add_sub_cancel, List.take_left]

/-- The token of a quoted text at the start of a text, and the rest. -/
def quotedAt? (kind : QuotedKind) (cs : List Char) : Option (Token × List Char) :=
  (quotedBody? cs).bind fun (body, rest) => (quotedToken? kind body).bind fun t => some (t, rest)

/-- The kind of the quoted text that a word is in front of. -/
def prefixedKind? (word rest : List Char) : Option QuotedKind :=
  if (match rest with
    | q :: _ => q == '"' || q == '\''
    | [] => false) then QuotedKind.of? word else none

/-- The token of a word at the start of a text, or of the quoted text that it is in front of. -/
def wordAt? (cs : List Char) : Option (Token × List Char) :=
  match prefixedKind? (cs.takeWhile isNameLike) (cs.dropWhile isNameLike) with
  | some kind => quotedAt? kind (cs.dropWhile isNameLike)
  | none => (wordToken? (cs.takeWhile isNameLike)).map fun t => (t, cs.dropWhile isNameLike)

theorem token?_cons (c : Char) (cs : List Char) : token? (c :: cs) =
    if c.isDigit || (c == '.' && (cs.head?.map Char.isDigit).getD false) then
      (number? (c :: cs)).map fun (n, rest) => (.number n, rest)
    else if c == '"' || c == '\'' then quotedAt? {} (c :: cs)
    else if isNameLike c then wordAt? (c :: cs)
    else (sign? (c :: cs)).map fun (s, rest) => (.sign s, rest) := by
  unfold token?
  dsimp only
  rfl

/-- A quoted text, with the letters in front of it. -/
theorem quotedAt?_plainQuotes (letters : List Char) {q : Char} (hq : (q == '"' || q == '\'') = true)
    (hletters : firstQuote? letters = none) (h : quotedAt? kind (q :: cs) = some (t, rest))
    (hguarded : Guarded may t (consumed (letters ++ q :: cs) rest))
    (hrest : ∀ c, rest.head? = some c → isTypographic c = false) :
    ∃ t', quotedAt? kind (plainQuotes (q :: cs)) = some (t', plainQuotes rest) ∧ t.Plainer may t' := by
  obtain ⟨⟨body, rest'⟩, hbody, h⟩ := Option.bind_eq_some_iff.1 h
  obtain ⟨u, ht, h⟩ := Option.bind_eq_some_iff.1 h
  cases h
  obtain ⟨mark, hmark, hall, htext⟩ := quotedBody?_eq hbody
  have hstart : consumed (letters ++ q :: cs) rest = letters ++ (mark ++ (body ++ mark)) := by
    rw [htext, ← consumed_append (letters ++ (mark ++ (body ++ mark))) rest]
    simp
  generalize consumed (letters ++ q :: cs) rest = start at hguarded hstart
  have hfirst : firstQuote? start = some q := by
    obtain ⟨m, marks, rfl⟩ := List.exists_cons_of_ne_nil hmark
    obtain rfl := hall m List.mem_cons_self
    rw [hstart, firstQuote?, List.find?_append, ← firstQuote?, hletters, Option.none_or, List.cons_append]
    exact List.find?_cons_of_pos hq
  have hpart : body <:+: start := ⟨letters ++ mark, mark, by rw [hstart]; simp⟩
  rcases hguarded with hnone | ⟨rfl, ⟨s, rfl⟩, hsingle, hchain⟩
  · have hnobody : ∀ c ∈ body, isTypographic c = false := fun c hc => hnone c (hpart.subset hc)
    have hplain : quotedBody? (plainQuotes (q :: cs)) = some (body, plainQuotes rest) := by
      rw [Bool.or_eq_true, beq_iff_eq, beq_iff_eq] at hq
      rcases hq with rfl | rfl
      · exact quotedBody?_double hbody hnobody hrest
      · rw [quotedBody?_single hbody, plainQuotes_of_forall hnobody]
    refine ⟨t, ?_, .same t⟩
    rw [quotedAt?, hplain, Option.bind_some]
    exact congrArg (Option.bind · fun t => some (t, plainQuotes rest)) ht
  · cases hsingle.symm.trans hfirst
    have hunescaped : Unescaped body := List.IsChain.infix hchain hpart
    obtain ⟨s', hs', hrel⟩ := quotedToken?_plainQuotes hunescaped ht
    refine ⟨.text s', ?_, .text hrel⟩
    rw [quotedAt?, quotedBody?_single hbody, Option.bind_some]
    exact congrArg (Option.bind · fun t => some (t, plainQuotes rest)) hs'

theorem firstQuote?_takeWhile (cs : List Char) : firstQuote? (cs.takeWhile isNameLike) = none := by
  rw [firstQuote?, List.find?_eq_none]
  intro c hc hquote
  have hname := List.mem_takeWhile_imp hc
  rw [Bool.or_eq_true, beq_iff_eq, beq_iff_eq] at hquote
  rcases hquote with rfl | rfl <;> cases hname

theorem prefixedKind?_plainQuotes {word : List Char} (h : ∀ c, rest.head? = some c → isTypographic c = false) :
    prefixedKind? word (plainQuotes rest) = prefixedKind? word rest := by
  cases rest with
  | nil => rfl
  | cons c rest => rw [plainQuotes_cons, plainChar_of_not (h c rfl), prefixedKind?, prefixedKind?]

theorem head?_dropWhile_isNameLike (cs : List Char) :
    ∀ c, (cs.dropWhile isNameLike).head? = some c → isTypographic c = false := by
  intro c hc
  refine Bool.eq_false_iff.2 fun htypographic => ?_
  have hnot := Text.of_head?_dropWhile hc
  rw [isNameLike_of_isTypographic htypographic] at hnot
  cases hnot

/-- No typographic quote belongs to a word. -/
theorem isTypographic_of_wordAt? (h : wordAt? cs = some (t, rest)) :
    ∀ c ∈ cs.takeWhile isNameLike, isTypographic c = false := by
  unfold wordAt? at h
  split at h
  · next kind hkind => exact isTypographic_of_kind (Option.ite_none_right_eq_some.1 hkind).2
  · obtain ⟨u, hu, -⟩ := Option.map_eq_some_iff.1 h
    exact isTypographic_of_wordToken? hu

/-- A word, or a quoted text with letters in front of it. -/
theorem wordAt?_plainQuotes (h : wordAt? cs = some (t, rest)) (hguarded : Guarded may t (consumed cs rest))
    (hrest : ∀ c, rest.head? = some c → isTypographic c = false) :
    ∃ t', wordAt? (plainQuotes cs) = some (t', plainQuotes rest) ∧ t.Plainer may t' := by
  obtain ⟨htake, hdrop⟩ := takeWhile_isNameLike_plainQuotes (isTypographic_of_wordAt? h)
  have hafter := head?_dropWhile_isNameLike cs
  unfold wordAt? at h
  rw [wordAt?, htake, hdrop, prefixedKind?_plainQuotes hafter]
  split at h
  · next kind hkind =>
    have hquoted := (Option.ite_none_right_eq_some.1 hkind).1
    have hparts := List.takeWhile_append_dropWhile (p := isNameLike) (l := cs)
    generalize cs.dropWhile isNameLike = behind at h hquoted hparts
    cases behind with
    | nil => cases hquoted
    | cons q tail =>
      rw [← hparts] at hguarded
      exact quotedAt?_plainQuotes _ hquoted (firstQuote?_takeWhile cs) h hguarded hrest
  · next hkind =>
    obtain ⟨u, hu, h⟩ := Option.map_eq_some_iff.1 h
    cases h
    exact ⟨t, congrArg _ hu, .same t⟩

/-- **A guarded token** is read as the same but for quotes, once the quotes are plain. -/
theorem token?_plainQuotes (h : token? cs = some (t, rest)) (hguarded : Guarded may t (consumed cs rest))
    (hrest : ∀ c, rest.head? = some c → isTypographic c = false) :
    ∃ t', token? (plainQuotes cs) = some (t', plainQuotes rest) ∧ t.Plainer may t' := by
  cases cs with
  | nil => cases h
  | cons c cs =>
    have hdot : (plainChar c == '.') = (c == '.') := plainChar_congr (· == '.') rfl rfl c
    rw [token?_cons] at h
    rw [plainQuotes_cons, token?_cons, isDigit_plainChar, hdot, startsWithDigit_plainQuotes, ← plainQuotes_cons]
    split at h
    · next hnumber =>
      obtain ⟨⟨n, rest'⟩, hn, h⟩ := Option.map_eq_some_iff.1 h
      cases h
      rw [if_pos hnumber, number?_plainQuotes hn]
      exact ⟨_, rfl, .same _⟩
    · next hnumber =>
      rw [if_neg hnumber]
      split at h
      · next hquote =>
        rw [plainChar_of_class (p := fun c => c == '"' || c == '\'') rfl rfl hquote, if_pos hquote]
        exact quotedAt?_plainQuotes [] hquote rfl h hguarded hrest
      · next hquote =>
        split at h
        · next hname =>
          have hword := isTypographic_of_wordAt? h
          rw [List.takeWhile_cons_of_pos hname, List.forall_mem_cons] at hword
          rw [plainChar_of_not hword.1, if_neg hquote, if_pos hname]
          exact wordAt?_plainQuotes h hguarded hrest
        · next hname =>
          obtain ⟨⟨s, rest'⟩, hs, h⟩ := Option.map_eq_some_iff.1 h
          cases h
          have hc : isTypographic c = false := Bool.eq_false_iff.2 (mt isNameLike_of_isTypographic hname)
          rw [plainChar_of_not hc, if_neg hquote, if_neg hname, sign?_plainQuotes, hs]
          exact ⟨_, rfl, .same _⟩

/-- No token starts with a typographic quote. -/
theorem token?_of_isTypographic (h : isTypographic c = true) (cs : List Char) : token? (c :: cs) = none := by
  have hname := isNameLike_of_isTypographic h
  have hword : wordAt? (c :: cs) = none := by
    refine Option.eq_none_iff_forall_ne_some.2 fun p hp => ?_
    have hnot := isTypographic_of_wordAt? hp c (by rw [List.takeWhile_cons_of_pos hname]; exact List.mem_cons_self)
    rw [h] at hnot
    cases hnot
  rw [token?_cons]
  rcases isTypographic_iff.1 h with rfl | rfl <;> exact hword

/-! ## Lexemes -/

/-- A token and the text that it is written as. -/
structure Lexeme where
  token : Token
  text : List Char
deriving DecidableEq

/-- The brackets that are open after a token, if it fits those open before it. -/
def Token.brackets? (t : Token) (brackets : List Sign) : Option (List Sign) :=
  match t with
  | .sign s => s.brackets? brackets
  | _ => some brackets

/-- The next line, at the end of one; it must not be empty. -/
def nextLine? : List Char → Option (List Char)
  | '\n' :: d :: rest => some (d :: rest)
  | _ => none

/-- **The tokens of a text** with the texts that they are written as, the brackets given that are open. -/
def lexemesIn? (brackets : List Sign) : Nat → List Char → Option (List Lexeme)
  | 0, _ => none
  | _ + 1, [] => if brackets.isEmpty then some [] else none
  | fuel + 1, c :: cs =>
    if isSpace c then lexemesIn? brackets fuel cs
    else if c == '#' then lexemesIn? brackets fuel (cs.dropWhile fun d => d != '\n')
    else if c == '\n' then
      if brackets.isEmpty then (lexemesIn? brackets fuel cs).map (⟨.lineEnd, ['\n']⟩ :: ·)
      else lexemesIn? brackets fuel cs
    else if c == '\\' then (nextLine? cs).bind fun line => lexemesIn? brackets fuel line
    else (token? (c :: cs)).bind fun (t, rest) => (t.brackets? brackets).bind fun brackets =>
      (lexemesIn? brackets fuel rest).map (⟨t, consumed (c :: cs) rest⟩ :: ·)

/-- The tokens of a whole text with the texts that they are written as. -/
def lexemes? (cs : List Char) : Option (List Lexeme) :=
  (afterBlankLines? cs.length (unifyLineEnds cs)).bind fun cs => lexemesIn? [] (cs.length + 1) cs

theorem lexemesIn?_token {brackets : List Sign} {fuel : Nat} {c : Char} {cs rest : List Char} {t : Token}
    (hspace : ¬isSpace c = true) (hcomment : ¬(c == '#') = true) (hfeed : ¬(c == '\n') = true)
    (hback : ¬(c == '\\') = true) (ht : token? (c :: cs) = some (t, rest)) : lexemesIn? brackets (fuel + 1) (c :: cs) =
      (t.brackets? brackets).bind fun brackets =>
        (lexemesIn? brackets fuel rest).map (⟨t, consumed (c :: cs) rest⟩ :: ·) := by
  rw [lexemesIn?, if_neg hspace, if_neg hcomment, if_neg hfeed, if_neg hback, ht, Option.bind_some]

theorem tokensIn?_eq (brackets : List Sign) (fuel : Nat) (cs : List Char) :
    tokensIn? brackets fuel cs = (lexemesIn? brackets fuel cs).map (List.map Lexeme.token) := by
  have hcons (l : Lexeme) (ls : Option (List Lexeme)) : (ls.map (List.map Lexeme.token)).map (l.token :: ·) =
      (ls.map (l :: ·)).map (List.map Lexeme.token) := by cases ls <;> rfl
  fun_induction tokensIn? brackets fuel cs with
  | case1 => rfl
  | case2 brackets fuel hbrackets =>
    rw [lexemesIn?, if_pos hbrackets]
    rfl
  | case3 brackets fuel hbrackets =>
    rw [lexemesIn?, if_neg hbrackets]
    rfl
  | case4 brackets fuel c cs hspace ih => rw [lexemesIn?, if_pos hspace, ih]
  | case5 brackets fuel c cs hspace hcomment ih => rw [lexemesIn?, if_neg hspace, if_pos hcomment, ih]
  | case6 brackets fuel c cs hspace hcomment hfeed hempty ih =>
    rw [lexemesIn?, if_neg hspace, if_neg hcomment, if_pos hfeed, if_pos hempty, ih]
    exact hcons ⟨.lineEnd, ['\n']⟩ _
  | case7 brackets fuel c cs hspace hcomment hfeed hempty ih =>
    rw [lexemesIn?, if_neg hspace, if_neg hcomment, if_pos hfeed, if_neg hempty, ih]
  | case8 brackets fuel c hspace hcomment hfeed hback d rest ih =>
    rw [lexemesIn?, if_neg hspace, if_neg hcomment, if_neg hfeed, if_pos hback]
    exact ih
  | case9 brackets fuel c cs hspace hcomment hfeed hback hnot =>
    rw [lexemesIn?, if_neg hspace, if_neg hcomment, if_neg hfeed, if_pos hback, nextLine?.eq_2 cs hnot]
    rfl
  | case10 brackets fuel c cs hspace hcomment hfeed hback htoken =>
    rw [lexemesIn?, if_neg hspace, if_neg hcomment, if_neg hfeed, if_neg hback, htoken]
    rfl
  | case11 brackets fuel c cs hspace hcomment hfeed hback s rest htoken brackets' hbrackets ih =>
    rw [lexemesIn?_token hspace hcomment hfeed hback htoken, ih]
    dsimp only [Token.brackets?]
    rw [hbrackets]
    exact hcons ⟨.sign s, consumed (c :: cs) rest⟩ _
  | case12 brackets fuel c cs hspace hcomment hfeed hback s rest htoken hbrackets =>
    rw [lexemesIn?_token hspace hcomment hfeed hback htoken]
    dsimp only [Token.brackets?]
    rw [hbrackets]
    rfl
  | case13 brackets fuel c cs hspace hcomment hfeed hback t rest hnot htoken ih =>
    rw [lexemesIn?_token hspace hcomment hfeed hback htoken, Token.brackets?.eq_2 _ _ hnot, ih]
    exact hcons ⟨t, consumed (c :: cs) rest⟩ _

theorem tokens?_eq (cs : List Char) : tokens? cs = (lexemes? cs).map (List.map Lexeme.token) := by
  rw [tokens?, lexemes?, Option.map_bind, Option.bind_eq_bind]
  exact congrArg _ (funext fun cs => tokensIn?_eq [] _ cs)

/-! ## Lexemes and plain quotes -/

theorem dropWhile_plainQuotes (cs : List Char) : (plainQuotes cs).dropWhile (fun d => d != '\n') =
    plainQuotes (cs.dropWhile fun d => d != '\n') := by
  rw [plainQuotes_eq, List.dropWhile_map, plainQuotes_eq]
  exact congrArg (fun p => (cs.dropWhile p).map plainChar) (funext (plainChar_congr (· != '\n') rfl rfl))

theorem nextLine?_plainQuotes (cs : List Char) : nextLine? (plainQuotes cs) = (nextLine? cs).map plainQuotes := by
  cases cs with
  | nil => rfl
  | cons c cs =>
    by_cases hc : c = '\n'
    · subst hc
      cases cs with
      | nil => rfl
      | cons d cs => rfl
    · have hplain : plainChar c ≠ '\n' := mt (plainChar_eq_iff (by decide) rfl).1 hc
      rw [plainQuotes_cons]
      unfold nextLine?
      split
      · next heq => exact (hplain (List.cons.inj heq).1).elim
      · split
        · next heq => exact (hc (List.cons.inj heq).1).elim
        · rfl

variable {brackets : List Sign} {fuel : Nat} {ls : List Lexeme}

/-- Where tokens are read there is no typographic quote. -/
theorem isTypographic_of_lexemesIn? (h : lexemesIn? brackets fuel cs = some ls) :
    ∀ c, cs.head? = some c → isTypographic c = false := by
  intro c hc
  refine Bool.eq_false_iff.2 fun htypographic => ?_
  cases cs with
  | nil => cases hc
  | cons d cs =>
    cases hc
    cases fuel with
    | zero => cases h
    | succ fuel =>
      rw [lexemesIn?, token?_of_isTypographic htypographic] at h
      rcases isTypographic_iff.1 htypographic with rfl | rfl <;> cases h

/-- Tokens related one by one, but for quotes. -/
abbrev LexemesPlainer (may : Bool) (ls ls' : List Lexeme) : Prop :=
  List.Forall₂ (fun l l' => l.token.Plainer may l'.token) ls ls'

/-- What a text starts with decides alike once the quotes are plain. -/
theorem lexemesIn?_plainQuotes_cons (brackets : List Sign) (fuel : Nat) (c : Char) (cs : List Char) :
    lexemesIn? brackets (fuel + 1) (plainQuotes (c :: cs)) =
      if isSpace c then lexemesIn? brackets fuel (plainQuotes cs)
      else if c == '#' then lexemesIn? brackets fuel (plainQuotes (cs.dropWhile fun d => d != '\n'))
      else if c == '\n' then
        if brackets.isEmpty then (lexemesIn? brackets fuel (plainQuotes cs)).map (⟨.lineEnd, ['\n']⟩ :: ·)
        else lexemesIn? brackets fuel (plainQuotes cs)
      else if c == '\\' then ((nextLine? cs).map plainQuotes).bind fun line => lexemesIn? brackets fuel line
      else (token? (plainQuotes (c :: cs))).bind fun (t, rest) => (t.brackets? brackets).bind fun brackets =>
        (lexemesIn? brackets fuel rest).map (⟨t, consumed (plainQuotes (c :: cs)) rest⟩ :: ·) := by
  have hspace : isSpace (plainChar c) = isSpace c := plainChar_congr isSpace rfl rfl c
  have hcomment : (plainChar c == '#') = (c == '#') := plainChar_congr (· == '#') rfl rfl c
  have hfeed : (plainChar c == '\n') = (c == '\n') := plainChar_congr (· == '\n') rfl rfl c
  have hback : (plainChar c == '\\') = (c == '\\') := plainChar_congr (· == '\\') rfl rfl c
  rw [plainQuotes_cons, lexemesIn?, hspace, hcomment, hfeed, hback, dropWhile_plainQuotes, nextLine?_plainQuotes]

/-- **Guarded tokens** are read as the same but for quotes, once the quotes are plain. -/
theorem lexemesIn?_plainQuotes (h : lexemesIn? brackets fuel cs = some ls)
    (hguarded : ∀ l ∈ ls, Guarded may l.token l.text) :
    ∃ ls', lexemesIn? brackets fuel (plainQuotes cs) = some ls' ∧ LexemesPlainer may ls ls' := by
  fun_induction lexemesIn? brackets fuel cs generalizing ls with
  | case1 => cases h
  | case2 brackets fuel hbrackets =>
    cases h
    exact ⟨[], if_pos hbrackets, .nil⟩
  | case3 => cases h
  | case4 brackets fuel c cs hspace ih =>
    rw [lexemesIn?_plainQuotes_cons, if_pos hspace]
    exact ih h hguarded
  | case5 brackets fuel c cs hspace hcomment ih =>
    rw [lexemesIn?_plainQuotes_cons, if_neg hspace, if_pos hcomment]
    exact ih h hguarded
  | case6 brackets fuel c cs hspace hcomment hfeed hempty ih =>
    obtain ⟨more, hmore, rfl⟩ := Option.map_eq_some_iff.1 h
    obtain ⟨more', hmore', hrel⟩ := ih hmore (List.forall_mem_cons.1 hguarded).2
    rw [lexemesIn?_plainQuotes_cons, if_neg hspace, if_neg hcomment, if_pos hfeed, if_pos hempty, hmore']
    exact ⟨_, rfl, .cons (.same _) hrel⟩
  | case7 brackets fuel c cs hspace hcomment hfeed hempty ih =>
    rw [lexemesIn?_plainQuotes_cons, if_neg hspace, if_neg hcomment, if_pos hfeed, if_neg hempty]
    exact ih h hguarded
  | case8 brackets fuel c cs hspace hcomment hfeed hback ih =>
    obtain ⟨line, hline, h⟩ := Option.bind_eq_some_iff.1 h
    rw [lexemesIn?_plainQuotes_cons, if_neg hspace, if_neg hcomment, if_neg hfeed, if_pos hback, hline]
    exact ih line h hguarded
  | case9 brackets fuel c cs hspace hcomment hfeed hback ih =>
    obtain ⟨⟨t, rest⟩, ht, h⟩ := Option.bind_eq_some_iff.1 h
    obtain ⟨brackets', hbrackets, h⟩ := Option.bind_eq_some_iff.1 h
    obtain ⟨more, hmore, rfl⟩ := Option.map_eq_some_iff.1 h
    obtain ⟨hthis, hothers⟩ := List.forall_mem_cons.1 hguarded
    obtain ⟨t', ht', hrel⟩ := token?_plainQuotes ht hthis (isTypographic_of_lexemesIn? hmore)
    obtain ⟨more', hmore', hrels⟩ := ih _ _ hmore hothers
    have hsame : t'.brackets? brackets = t.brackets? brackets := by cases hrel <;> rfl
    rw [lexemesIn?_plainQuotes_cons, if_neg hspace, if_neg hcomment, if_neg hfeed, if_neg hback, ht', Option.bind_some]
    dsimp only
    rw [hsame, hbrackets, Option.bind_some, hmore']
    exact ⟨_, rfl, .cons hrel hrels⟩
theorem unifyLineEnds_plainQuotes (cs : List Char) :
    unifyLineEnds (plainQuotes cs) = plainQuotes (unifyLineEnds cs) := by
  fun_induction unifyLineEnds cs with
  | case1 => rfl
  | case2 cs ih => exact congrArg ('\n' :: ·) ih
  | case3 cs hnot ih =>
    have hplain : ∀ rest, plainQuotes cs = '\n' :: rest → False := plainQuotes_ne_cons (by decide) rfl hnot
    rw [plainQuotes_cons, plainQuotes_cons, ← ih]
    exact unifyLineEnds.eq_3 _ hplain
  | case4 c cs hpair hreturn ih =>
    rw [plainQuotes_cons, plainQuotes_cons, ← ih]
    refine unifyLineEnds.eq_4 _ _ (fun rest hc hcs => ?_) fun hc => ?_
    · exact hreturn ((plainChar_eq_iff (by decide) rfl).1 hc)
    · exact hreturn ((plainChar_eq_iff (by decide) rfl).1 hc)

/-- A line that starts with other characters than a form feed and does not go on with the next one. -/
theorem margin?_cons {indented joined : Bool} (hform : c ≠ '\x0c')
    (hline : ∀ d ds, c = '\\' → cs = '\n' :: d :: ds → False) : margin? indented joined (c :: cs) =
      if c == ' ' || c == '\t' then margin? true joined cs
      else if c == '\\' then none
      else some (joined || indented, c :: cs) :=
  margin?.eq_3 _ _ _ _ hform hline

theorem margin?_plainQuotes (indented joined : Bool) (cs : List Char) : margin? indented joined (plainQuotes cs) =
    (margin? indented joined cs).map fun (indented, rest) => (indented, plainQuotes rest) := by
  have hother {c : Char} {cs : List Char} (hform : c = '\x0c' → False)
      (hline : ∀ d ds, c = '\\' → cs = '\n' :: d :: ds → False) (indented joined : Bool) :
      margin? indented joined (plainQuotes (c :: cs)) =
        if c == ' ' || c == '\t' then margin? true joined (plainQuotes cs)
        else if c == '\\' then none
        else some (joined || indented, plainQuotes (c :: cs)) := by
    have hblank : (plainChar c == ' ' || plainChar c == '\t') = (c == ' ' || c == '\t') :=
      plainChar_congr (fun c => c == ' ' || c == '\t') rfl rfl c
    have hback : (plainChar c == '\\') = (c == '\\') := plainChar_congr (· == '\\') rfl rfl c
    rw [plainQuotes_cons, margin?_cons, hblank, hback]
    · exact mt (plainChar_eq_iff (by decide) rfl).1 hform
    · intro d ds hc hcs
      obtain ⟨rest, rfl, hrest⟩ := exists_of_plainQuotes_eq_cons hcs (by decide) rfl
      obtain ⟨e, es, rfl, -⟩ := List.map_eq_cons_iff.1 hrest
      exact hline e es ((plainChar_eq_iff (by decide) rfl).1 hc) rfl
  fun_induction margin? indented joined cs with
  | case1 indented joined cs ih => exact ih
  | case2 indented joined c cs ih => exact ih
  | case3 indented joined c cs hform hline hblank ih => rw [hother hform hline, if_pos hblank, ih]
  | case4 indented joined c cs hform hline hblank hback =>
    rw [hother hform hline, if_neg hblank, if_pos hback]
    rfl
  | case5 indented joined c cs hform hline hblank hback =>
    rw [hother hform hline, if_neg hblank, if_neg hback]
    rfl
  | case6 => rfl

/-- The text after a line whose margin is known, if it is blank or a comment; else the text from it on. -/
def afterLine? (fuel : Nat) (indented : Bool) : List Char → Option (List Char)
  | '#' :: rest => afterBlankLines? fuel ((rest.dropWhile fun c => c != '\n').drop 1)
  | '\n' :: rest => afterBlankLines? fuel rest
  | cs => if indented then none else some cs

theorem afterBlankLines?_succ (fuel : Nat) (cs : List Char) : afterBlankLines? (fuel + 1) cs =
    (margin? false false cs).bind fun (indented, cs) => afterLine? fuel indented cs := rfl

theorem afterBlankLines?_plainQuotes (fuel : Nat) (cs : List Char) :
    afterBlankLines? fuel (plainQuotes cs) = (afterBlankLines? fuel cs).map plainQuotes := by
  induction fuel generalizing cs with
  | zero => rfl
  | succ fuel ih =>
    have hline (indented : Bool) (line : List Char) :
        afterLine? fuel indented (plainQuotes line) = (afterLine? fuel indented line).map plainQuotes := by
      fun_cases afterLine? fuel indented line with
      | case1 rest =>
        rw [← ih, plainQuotes_eq (List.drop _ _), List.map_drop, ← plainQuotes_eq, ← dropWhile_plainQuotes]
        rfl
      | case2 rest => exact ih rest
      | case3 line hcomment hfeed hindented =>
        rw [afterLine?, if_pos hindented]
        · rfl
        · exact plainQuotes_ne_cons (by decide) rfl hcomment
        · exact plainQuotes_ne_cons (by decide) rfl hfeed
      | case4 line hcomment hfeed hindented =>
        rw [afterLine?, if_neg hindented]
        · rfl
        · exact plainQuotes_ne_cons (by decide) rfl hcomment
        · exact plainQuotes_ne_cons (by decide) rfl hfeed
    rw [afterBlankLines?_succ, afterBlankLines?_succ, margin?_plainQuotes]
    cases margin? false false cs with
    | none => rfl
    | some p => exact hline p.1 p.2

/-- **Guarded tokens of a whole text** are read as the same but for quotes, once the quotes are plain. -/
theorem lexemes?_plainQuotes {ls : List Lexeme} (h : lexemes? cs = some ls)
    (hguarded : ∀ l ∈ ls, Guarded may l.token l.text) :
    ∃ ls', lexemes? (plainQuotes cs) = some ls' ∧ LexemesPlainer may ls ls' := by
  obtain ⟨lines, hlines, h⟩ := Option.bind_eq_some_iff.1 h
  obtain ⟨ls', hls', hrel⟩ := lexemesIn?_plainQuotes h hguarded
  refine ⟨ls', ?_, hrel⟩
  have hlength : ∀ cs, (plainQuotes cs).length = cs.length := fun cs => List.length_map _
  rw [lexemes?, hlength, unifyLineEnds_plainQuotes, afterBlankLines?_plainQuotes, hlines, Option.map_some,
    Option.bind_some, hlength, hls']

end Condition
end Walkthrough
