/-
# Compiling and plain quotes

Before the expression of a condition is read, all its typographic quotes are made plain, also those in its texts. So a
condition that is valid as it is written (`written?`) keeps its meaning if there are none in its tokens, and is
accepted with other texts if they stand between single quotes only (`compile_of_written`). It may be false where
it should be true, and between double quotes it is not even accepted (`compile_strays`).
-/

import Walkthrough.Proofs.Condition.Quoting.Reading

namespace Walkthrough
namespace Condition

open Predicate (plainQuotes)

variable {may : Bool} {ts ts' : List Token} {cs : List Char}

/-- **The typographic quotes of a text** stand in no token, or else with `may` only in texts between single quotes, and
not right behind a backslash. -/
def Guards (may : Bool) (cs : List Char) : Prop := ∃ ls, lexemes? cs = some ls ∧ ∀ l ∈ ls, Guarded may l.token l.text

theorem guarded_of_all {t : Token} (h : cs.all (fun c => !isTypographic c) = true) : Guarded may t cs :=
  .inl fun c hc => Bool.not_eq_true' _ ▸ List.all_eq_true.1 h c hc

/-! ## Whole texts -/

theorem topLevel_alike (n : Nat) :
    Reads may (fun p p' => AllPlainer may p.1 p'.1 ∧ p'.2 = p.2) (topLevel? n) (topLevel? n) := by
  induction n with
  | zero => exact fun _ => .none
  | succ n ih =>
    intro ts ts' hts
    rw [topLevel?, topLevel?]
    refine rel_bind ((readsAlike may n).expression hts) ?_
    rintro ⟨t, after⟩ ⟨t', after'⟩ ⟨ht, hafter⟩
    obtain ⟨rest, rest', rfl, rfl, hrest⟩ | ⟨hcomma, hcomma'⟩ := head_cases (.sign .comma) rfl hafter
    · have hmore := ih hrest
      dsimp only
      generalize topLevel? n rest = more, topLevel? n rest' = more' at hmore ⊢
      cases hmore with
      | none => exact .some ⟨⟨.cons ht .nil, rfl⟩, hrest⟩
      | some h => exact .some ⟨⟨.cons ht h.1.1, rfl⟩, h.2⟩
    · dsimp only
      split
      · exact (hcomma _ rfl).elim
      · exact .some ⟨⟨.cons ht .nil, rfl⟩, hafter⟩

theorem isFinished_eq (h : TokensPlainer may ts ts') : isFinished ts' = isFinished ts := by
  have heq := congrArg (List.all · id) (map_eq_of_plainer (f := (· == .lineEnd)) (fun _ _ => rfl) h)
  rwa [List.all_map, List.all_map] at heq

/-- **A guarded text** is read as the same term but for quotes, once the quotes are plain. -/
theorem ofText?_plainQuotes (h : Guards may cs) :
    Option.Rel (Term.Plainer may) (Term.ofText? cs) (Term.ofText? (plainQuotes cs)) := by
  obtain ⟨ls, hls, hguarded⟩ := h
  obtain ⟨ls', hls', hrel⟩ := lexemes?_plainQuotes hls hguarded
  have htokens : TokensPlainer may (ls.map Lexeme.token) (ls'.map Lexeme.token) := by
    rwa [TokensPlainer, List.forall₂_map_left_iff, List.forall₂_map_right_iff]
  have hlength : (plainQuotes cs).length = cs.length := List.length_map _
  rw [Term.ofText?, Term.ofText?, tokens?_eq, tokens?_eq, hls, hls', hlength, Option.map_some, Option.map_some,
    Option.bind_eq_bind, Option.bind_some, Option.bind_some]
  refine rel_bind (topLevel_alike _ htokens) ?_
  rintro ⟨⟨items, isTuple⟩, rest⟩ ⟨⟨items', isTuple'⟩, rest'⟩ ⟨⟨hitems, rfl⟩, hrest⟩
  dsimp only at hitems hrest ⊢
  rw [isFinished_eq hrest]
  split
  · exact .none
  · cases hitems with
    | nil => exact .some (.tuple .nil)
    | cons h hmore =>
      cases hmore with
      | nil =>
        cases isTuple' with
        | false => exact .some h
        | true => exact .some (.tuple (.cons h .nil))
      | cons h' hmore => exact .some (.tuple (.cons h (.cons h' hmore)))

end Condition

namespace Predicate

open Condition

variable {text : String} {given : Option (OrderedMap String Int)} {headed : Headed} {p : Predicate}

/-- **The condition that a text states as it is written**, its typographic quotes left as they are. -/
def written? (text : String) (given : Option (OrderedMap String Int)) : Option Predicate := do
  if !canLog given then none else
  let headed ← (split text).toOption
  let parameters := given.getD headed.bindings
  if headed.body.contains '\x00' then none else
  let t ← Term.ofText? headed.body
  let f ← (t.check parameters.keys).toOption
  return ⟨text, parameters, f⟩

theorem written?_eq_some (hsplit : split text = .ok headed) (h : written? text given = some p) :
    canLog given = true ∧ '\x00' ∉ headed.body ∧ ∃ t f, Term.ofText? headed.body = some t ∧
      t.Becomes (given.getD headed.bindings).keys f ∧ p = ⟨text, given.getD headed.bindings, f⟩ := by
  rw [written?, hsplit] at h
  obtain ⟨hlog, h⟩ := Option.ite_none_left_eq_some.1 h
  obtain ⟨hnull, h⟩ := Option.ite_none_left_eq_some.1 h
  obtain ⟨t, ht, h⟩ := Option.bind_eq_some_iff.1 h
  obtain ⟨f, hf, h⟩ := Option.bind_eq_some_iff.1 h
  exact ⟨by simpa using hlog, mt List.contains_iff_mem.2 hnull, t, f, ht, Term.check_eq_ok_iff.1 (ok_of_toOption hf),
    (Option.some.inj h).symm⟩

/-- **A condition that is valid as it is written** is compiled as such if no typographic quote stands in its tokens. If
some stand in texts between single quotes, it is accepted and the same but for the quotes in its texts. -/
theorem compile_of_written (hsplit : split text = .ok headed) (h : written? text given = some p) :
    (Guards false headed.body → compile text given = .ok p) ∧
      (Guards true headed.body → ∃ t t' q, Term.ofText? headed.body = some t ∧
        t.Becomes p.parameters.keys p.formula ∧ t.Plainer true t' ∧ compile text given = .ok q ∧
        q.parameters = p.parameters ∧ t'.Becomes p.parameters.keys q.formula) := by
  obtain ⟨hlog, hnull, t, f, ht, hf, rfl⟩ := written?_eq_some hsplit h
  have hread : ∀ {may}, Guards may headed.body →
      ∃ t', Term.ofText? (plainQuotes headed.body) = some t' ∧ t.Plainer may t' := by
    intro may hguards
    have hplain := ofText?_plainQuotes hguards
    rw [ht] at hplain
    generalize Term.ofText? (plainQuotes headed.body) = read at hplain
    cases hplain with
    | some h => exact ⟨_, rfl, h⟩
  constructor
  · intro hguards
    obtain ⟨t', ht', hrel⟩ := hread hguards
    obtain rfl := hrel.eq_of_none
    exact compile_given_eq_ok_iff.2 ⟨hlog, headed, t', f, hsplit, hnull, ht', hf, rfl⟩
  · intro hguards
    obtain ⟨t', ht', hrel⟩ := hread hguards
    obtain ⟨g, hg⟩ := hrel.becomes hf
    exact ⟨t, t', ⟨text, given.getD headed.bindings, g⟩, ht, hf, hrel,
      compile_given_eq_ok_iff.2 ⟨hlog, headed, t', g, hsplit, hnull, ht', hg, rfl⟩, rfl, hg⟩

/-- A typographic quote in a comment, and some in a text between single quotes. -/
theorem compile_of_written_remark :
    (let text := "(c=1) c == 'a' # “a”"
      ∃ headed p, split text = .ok headed ∧ written? text none = some p ∧ Guards false headed.body ∧
        compile text none = .ok p) ∧
    (let text := "(c=1) c == 'say “a”'"
      ∃ headed p, split text = .ok headed ∧ written? text none = some p ∧ Guards true headed.body ∧
        ∃ t t' q, Term.ofText? headed.body = some t ∧ t.Becomes p.parameters.keys p.formula ∧ t.Plainer true t' ∧
          compile text none = .ok q ∧ q.parameters = p.parameters ∧ t'.Becomes p.parameters.keys q.formula) := by
  constructor
  · intro text
    have hbody : (split text).toOption.map Headed.body = some "c == 'a' # “a”".toList := by decide +kernel
    have hsome : (written? text none).isSome = true := by decide +kernel
    obtain ⟨headed, hsplit, hheaded⟩ := Option.map_eq_some_iff.1 hbody
    obtain ⟨p, hp⟩ := Option.isSome_iff_exists.1 hsome
    let remark : List Lexeme := [⟨.name "c", ['c']⟩, ⟨.sign .equal, ['=', '=']⟩, ⟨.text "a", "'a'".toList⟩]
    have hguards : Guards false headed.body := by
      rw [hheaded]
      have hnone : ∀ l ∈ remark, l.text.all (fun c => !isTypographic c) = true := by decide
      exact ⟨remark, by decide +kernel, fun l hl => guarded_of_all (hnone l hl)⟩
    exact ⟨headed, p, ok_of_toOption hsplit, hp, hguards, (compile_of_written (ok_of_toOption hsplit) hp).1 hguards⟩
  · intro text
    have hbody : (split text).toOption.map Headed.body = some "c == 'say “a”'".toList := by decide +kernel
    have hsome : (written? text none).isSome = true := by decide +kernel
    obtain ⟨headed, hsplit, hheaded⟩ := Option.map_eq_some_iff.1 hbody
    obtain ⟨p, hp⟩ := Option.isSome_iff_exists.1 hsome
    have hguards : Guards true headed.body := by
      rw [hheaded]
      refine ⟨[⟨.name "c", ['c']⟩, ⟨.sign .equal, ['=', '=']⟩, ⟨.text "say “a”", "'say “a”'".toList⟩],
        by decide +kernel, ?_⟩
      refine List.forall_mem_cons.2 ⟨guarded_of_all rfl, List.forall_mem_cons.2 ⟨guarded_of_all rfl, ?_⟩⟩
      have hunescaped : Unescaped "'say “a”'".toList := by
        unfold Unescaped
        decide +kernel
      exact List.forall_mem_singleton.2 (.inr ⟨rfl, ⟨_, rfl⟩, rfl, hunescaped⟩)
    exact ⟨headed, p, ok_of_toOption hsplit, hp, hguards, (compile_of_written (ok_of_toOption hsplit) hp).2 hguards⟩

/-- **A text stands for other characters** once its quotes are plain, so a condition is false where it should be true;
and between double quotes it ends too early, so the condition is not even accepted. -/
theorem compile_strays :
    (let text := "(c=1) c == '“'"
      ∃ p q, written? text none = some p ∧ compile text none = .ok q ∧
        p.evaluate (fun _ => .text "“") = .ok true ∧ q.evaluate (fun _ => .text "“") = .ok false) ∧
    (let text := "(c=1) c == \"“\""
      ∃ p, written? text none = some p ∧ ∀ q, compile text none ≠ .ok q) := by
  constructor
  · intro text
    have hwritten : (written? text none).map (fun p => (p.evaluate fun _ => .text "“").toOption) =
        some (some true) := by decide +kernel
    have hcompile : (compile text none).toOption.map (fun q => (q.evaluate fun _ => .text "“").toOption) =
        some (some false) := by decide +kernel
    obtain ⟨p, hp, hptrue⟩ := Option.map_eq_some_iff.1 hwritten
    obtain ⟨q, hq, hqfalse⟩ := Option.map_eq_some_iff.1 hcompile
    exact ⟨p, q, hp, ok_of_toOption hq, ok_of_toOption hptrue, ok_of_toOption hqfalse⟩
  · intro text
    have hwritten : (written? text none).isSome = true := by decide +kernel
    have hcompile : (compile text none).toOption.isSome = false := by decide +kernel
    obtain ⟨p, hp⟩ := Option.isSome_iff_exists.1 hwritten
    refine ⟨p, hp, fun q hq => ?_⟩
    rw [hq] at hcompile
    cases hcompile

end Predicate
end Walkthrough
