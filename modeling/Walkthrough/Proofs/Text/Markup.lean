/-
# Plain text inside markup

Inside markup, plain text is escaped first and its line feeds become line breaks at the end. Escaped text is
harmless: the characters that delimit elements and attributes do not occur in it, and an ampersand begins one
of five entities (`harmless_escapeMarkup`). So the line breaks that are put into it are the only elements, and
they can be taken out again (`withoutBreaks_breakLines`). Undoing the line breaks and the entities gives back
the text (`plainText_breakLines`).
-/

import Walkthrough.Proofs.Text.Search
import Walkthrough.Text.Markup

namespace Walkthrough
namespace Text

variable {cs as bs : List Char} {c : Char}

/-- The characters with a meaning in markup, and their entities. -/
def entities : List (Char × List Char) :=
  [('&', "&amp;".toList), ('<', "&lt;".toList), ('>', "&gt;".toList), ('"', "&quot;".toList),
    ('\'', "&#x27;".toList)]

/-- **Harmless text**: it has nothing that delimits an element or an attribute, and every ampersand begins one of
the entities. -/
structure Harmless (cs : List Char) : Prop where
  quiet : '<' ∉ cs ∧ '>' ∉ cs ∧ '"' ∉ cs ∧ '\'' ∉ cs
  entity : ∀ k, cs[k]? = some '&' → ∃ e ∈ entities, StandsAt e.2 cs k

/-- The text without its line breaks. -/
def withoutBreaks : List Char → List Char
  | '<' :: 'b' :: 'r' :: '/' :: '>' :: cs => withoutBreaks cs
  | c :: cs => c :: withoutBreaks cs
  | [] => []

/-- **The plain text** of a text inside markup: line breaks are line feeds, and entities are the characters they
stand for. -/
def plainText : List Char → List Char
  | '<' :: 'b' :: 'r' :: '/' :: '>' :: cs => '\n' :: plainText cs
  | '&' :: 'a' :: 'm' :: 'p' :: ';' :: cs => '&' :: plainText cs
  | '&' :: 'l' :: 't' :: ';' :: cs => '<' :: plainText cs
  | '&' :: 'g' :: 't' :: ';' :: cs => '>' :: plainText cs
  | '&' :: 'q' :: 'u' :: 'o' :: 't' :: ';' :: cs => '"' :: plainText cs
  | '&' :: '#' :: 'x' :: '2' :: '7' :: ';' :: cs => '\'' :: plainText cs
  | c :: cs => c :: plainText cs
  | [] => []

/-! ## Escaped text is harmless -/

namespace Harmless

theorem nil : Harmless [] :=
  ⟨⟨List.not_mem_nil, List.not_mem_nil, List.not_mem_nil, List.not_mem_nil⟩, fun _ h => nomatch h⟩

theorem append (ha : Harmless as) (hb : Harmless bs) : Harmless (as ++ bs) := by
  have hboth : ∀ {c : Char}, c ∉ as → c ∉ bs → c ∉ as ++ bs := fun hc hc' hmem =>
    (List.mem_append.1 hmem).elim hc hc'
  obtain ⟨hopen, hclose, hquote, happ⟩ := ha.quiet
  obtain ⟨hopen', hclose', hquote', happ'⟩ := hb.quiet
  refine ⟨⟨hboth hopen hopen', hboth hclose hclose', hboth hquote hquote', hboth happ happ'⟩, fun k hk => ?_⟩
  rcases Nat.lt_or_ge k as.length with hlt | hge
  · rw [List.getElem?_append_left hlt] at hk
    obtain ⟨e, he, hstands⟩ := ha.entity k hk
    refine ⟨e, he, ?_⟩
    rw [StandsAt, List.drop_append_of_le_length (Nat.le_of_lt hlt)]
    exact hstands.trans (List.prefix_append _ _)
  · rw [List.getElem?_append_right hge] at hk
    obtain ⟨e, he, hstands⟩ := hb.entity _ hk
    refine ⟨e, he, ?_⟩
    rwa [StandsAt, List.drop_append, List.drop_eq_nil_of_le hge]

end Harmless

/-- A character with a meaning in markup becomes an entity, any other stays. -/
theorem escapeChar_cases (c : Char) :
    (c, escapeChar c) ∈ entities ∨ escapeChar c = [c] ∧ c ≠ '&' ∧ c ≠ '<' ∧ c ≠ '>' ∧ c ≠ '"' ∧ c ≠ '\'' := by
  unfold escapeChar
  split
  · next h => rw [h]; exact .inl (by decide)
  split
  · next h => rw [h]; exact .inl (by decide)
  split
  · next h => rw [h]; exact .inl (by decide)
  split
  · next h => rw [h]; exact .inl (by decide)
  split
  · next h => rw [h]; exact .inl (by decide)
  exact .inr ⟨rfl, by assumption, by assumption, by assumption, by assumption, by assumption⟩

theorem harmless_of_mem_entities {e : Char × List Char} (h : e ∈ entities) : Harmless e.2 := by
  have hquiet : ∀ e ∈ entities, '<' ∉ e.2 ∧ '>' ∉ e.2 ∧ '"' ∉ e.2 ∧ '\'' ∉ e.2 := by decide
  have hrest : ∀ e ∈ entities, '&' ∉ e.2.tail := by decide
  refine ⟨hquiet e h, fun k hk => ⟨e, h, ?_⟩⟩
  cases k with
  | zero => exact List.prefix_refl e.2
  | succ k =>
    rw [← List.getElem?_tail] at hk
    exact absurd (List.mem_of_getElem? hk) (hrest e h)

theorem harmless_escapeChar (c : Char) : Harmless (escapeChar c) := by
  rcases escapeChar_cases c with h | ⟨h, hamp, hopen, hclose, hquote, happ⟩
  · exact harmless_of_mem_entities h
  · rw [h]
    have hother : ∀ {d : Char}, c ≠ d → d ∉ [c] := fun hne hmem => hne (List.mem_singleton.1 hmem).symm
    refine ⟨⟨hother hopen, hother hclose, hother hquote, hother happ⟩, fun k hk => ?_⟩
    cases k with
    | zero => exact absurd (Option.some.inj hk) hamp
    | succ k => cases hk

theorem harmless_escapeMarkup (cs : List Char) : Harmless (escapeMarkup cs) := by
  induction cs with
  | nil => exact .nil
  | cons c cs ih => exact (harmless_escapeChar c).append ih

/-! ## Line breaks -/

/-- A character of plain text inside markup, where line feeds are line breaks. -/
def markupChar (c : Char) : List Char := if c = '\n' then "<br/>".toList else escapeChar c

theorem breakLines_append (as bs : List Char) : breakLines (as ++ bs) = breakLines as ++ breakLines bs :=
  List.flatMap_append

theorem breakLines_escapeChar (c : Char) : breakLines (escapeChar c) = markupChar c := by
  have hentities : ∀ e ∈ entities, breakLines e.2 = e.2 := by decide
  unfold markupChar
  split
  · next h => rw [h]; decide
  · next h =>
    rcases escapeChar_cases c with hc | ⟨hc, -⟩
    · exact hentities _ hc
    · rw [hc, breakLines, List.flatMap_singleton, if_neg h]

/-- Escaping and breaking lines work on one character at a time. -/
theorem breakLines_escapeMarkup (cs : List Char) : breakLines (escapeMarkup cs) = cs.flatMap markupChar := by
  induction cs with
  | nil => rfl
  | cons c cs ih =>
    rw [escapeMarkup, List.flatMap_cons, breakLines_append, breakLines_escapeChar, List.flatMap_cons, ← ih]
    rfl

theorem withoutBreaks_cons (h : c ≠ '<') (cs : List Char) : withoutBreaks (c :: cs) = c :: withoutBreaks cs := by
  rw [withoutBreaks]
  rintro _ rfl
  exact absurd rfl h

theorem withoutBreaks_append (h : '<' ∉ as) : withoutBreaks (as ++ bs) = as ++ withoutBreaks bs := by
  induction as with
  | nil => rfl
  | cons a as ih =>
    rw [List.mem_cons, not_or] at h
    rw [List.cons_append, withoutBreaks_cons (Ne.symm h.1), ih h.2, List.cons_append]

/-- **Line breaks can be taken out again**, and the rest is the text without its line feeds, escaped. -/
theorem withoutBreaks_breakLines (cs : List Char) :
    withoutBreaks (breakLines (escapeMarkup cs)) = escapeMarkup (cs.filter (· ≠ '\n')) := by
  rw [breakLines_escapeMarkup]
  induction cs with
  | nil => rfl
  | cons c cs ih =>
    rw [List.flatMap_cons, markupChar]
    split
    · next h =>
      rw [List.filter_cons_of_neg (by simpa using h), ← ih]
      rfl
    · next h =>
      rw [List.filter_cons_of_pos (by simpa using h), escapeMarkup, List.flatMap_cons,
        withoutBreaks_append (harmless_escapeChar c).quiet.1, ih]
      rfl

/-! ## Undoing -/

theorem plainText_cons (hopen : c ≠ '<') (hamp : c ≠ '&') (cs : List Char) :
    plainText (c :: cs) = c :: plainText cs := by
  rw [plainText]
  · rintro _ rfl
    exact absurd rfl hopen
  all_goals
    rintro _ rfl
    exact absurd rfl hamp

theorem plainText_entity {e : Char × List Char} (h : e ∈ entities) (cs : List Char) :
    plainText (e.2 ++ cs) = e.1 :: plainText cs := by
  simp only [entities, List.mem_cons, List.not_mem_nil, or_false] at h
  rcases h with rfl | rfl | rfl | rfl | rfl <;> rfl

theorem plainText_markupChar (c : Char) (cs : List Char) :
    plainText (markupChar c ++ cs) = c :: plainText cs := by
  unfold markupChar
  split
  · next h => rw [h]; rfl
  · rcases escapeChar_cases c with h | ⟨h, hamp, hopen, -⟩
    · exact plainText_entity h cs
    · rw [h]
      exact plainText_cons hopen hamp cs

/-- **Nothing is lost** when a text is escaped and its lines are broken. -/
theorem plainText_breakLines (cs : List Char) : plainText (breakLines (escapeMarkup cs)) = cs := by
  rw [breakLines_escapeMarkup]
  induction cs with
  | nil => rfl
  | cons c cs ih => rw [List.flatMap_cons, plainText_markupChar, ih]

end Text
end Walkthrough
