/-
# Lists of tokens and plain quotes

Tokens that are the same but for quotes start in the same way as far as they are not texts (`starts_cases`), so what
looks at their beginnings alone finds the same. Texts side by side are joined into the same but for quotes
(`joinTexts?_alike`).
-/

import Walkthrough.Proofs.Condition.Quoting.Terms

namespace Walkthrough
namespace Condition

variable {may : Bool} {n : Nat} {ts ts' : List Token} {k l : Token}

/-! ## Tokens but for quotes -/

/-- The same tokens but for quotes. -/
abbrev TokensPlainer (may : Bool) (ts ts' : List Token) : Prop := List.Forall₂ (Token.Plainer may) ts ts'

theorem Token.Plainer.eq_of_left (h : k.Plainer may l) (hk : k.isText = false) : l = k := by
  cases h with
  | same => rfl
  | text h => cases hk

theorem Token.Plainer.eq_of_right (h : k.Plainer may l) (hl : l.isText = false) : k = l := by
  cases h with
  | same => rfl
  | text h => cases hl

/-- A beginning without texts is kept. -/
theorem exists_append_left {ks rest : List Token} (hks : ∀ k ∈ ks, k.isText = false)
    (h : TokensPlainer may (ks ++ rest) ts') : ∃ rest', ts' = ks ++ rest' ∧ TokensPlainer may rest rest' := by
  induction ks generalizing ts' with
  | nil => exact ⟨ts', rfl, h⟩
  | cons k ks ih =>
    cases h with
    | cons hk h =>
      rw [List.forall_mem_cons] at hks
      obtain ⟨rest', rfl, hrest⟩ := ih hks.2 h
      exact ⟨rest', congrArg (· :: _) (hk.eq_of_left hks.1), hrest⟩

/-- A beginning without texts was there before. -/
theorem exists_append_right {ks rest : List Token} (hks : ∀ k ∈ ks, k.isText = false)
    (h : TokensPlainer may ts (ks ++ rest)) : ∃ rest', ts = ks ++ rest' := by
  induction ks generalizing ts with
  | nil => exact ⟨ts, rfl⟩
  | cons k ks ih =>
    cases h with
    | cons hk h =>
      rw [List.forall_mem_cons] at hks
      obtain ⟨rest', rfl⟩ := ih hks.2 h
      exact ⟨rest', congrArg (· :: _) (hk.eq_of_right hks.1)⟩

/-- **Beginnings without texts** are the same on both sides: either both lists have one, or none has. -/
theorem starts_cases (heads : List Token → Prop) (hheads : ∀ ks, heads ks → ∀ k ∈ ks, k.isText = false)
    (h : TokensPlainer may ts ts') :
    (∃ ks rest rest', heads ks ∧ ts = ks ++ rest ∧ ts' = ks ++ rest' ∧ TokensPlainer may rest rest') ∨
      (∀ ks rest, heads ks → ts = ks ++ rest → False) ∧ ∀ ks rest, heads ks → ts' = ks ++ rest → False := by
  by_cases hts : ∃ ks rest, heads ks ∧ ts = ks ++ rest
  · obtain ⟨ks, rest, hks, rfl⟩ := hts
    obtain ⟨rest', rfl, hrest⟩ := exists_append_left (hheads ks hks) h
    exact .inl ⟨ks, rest, rest', hks, rfl, rfl, hrest⟩
  · refine .inr ⟨fun ks rest hks heq => hts ⟨ks, rest, hks, heq⟩, ?_⟩
    rintro ks rest hks rfl
    obtain ⟨rest', rfl⟩ := exists_append_right (hheads ks hks) h
    exact hts ⟨ks, rest', hks, rfl⟩

/-- Both lists start with a token, or none does. -/
theorem head_cases (k : Token) (hk : k.isText = false) (h : TokensPlainer may ts ts') :
    (∃ rest rest', ts = k :: rest ∧ ts' = k :: rest' ∧ TokensPlainer may rest rest') ∨
      (∀ rest, ts = k :: rest → False) ∧ ∀ rest, ts' = k :: rest → False := by
  obtain ⟨_, rest, rest', rfl, hts, hts', hrest⟩ | ⟨hts, hts'⟩ :=
    starts_cases (· = [k]) (by rintro _ rfl; simpa using hk) h
  · exact .inl ⟨rest, rest', hts, hts', hrest⟩
  · exact .inr ⟨fun rest => hts _ rest rfl, fun rest => hts' _ rest rfl⟩

/-- Both lists start with two tokens, or none does. -/
theorem pair_cases (k l : Token) (hk : k.isText = false) (hl : l.isText = false) (h : TokensPlainer may ts ts') :
    (∃ rest rest', ts = k :: l :: rest ∧ ts' = k :: l :: rest' ∧ TokensPlainer may rest rest') ∨
      (∀ rest, ts = k :: l :: rest → False) ∧ ∀ rest, ts' = k :: l :: rest → False := by
  obtain ⟨_, rest, rest', rfl, hts, hts', hrest⟩ | ⟨hts, hts'⟩ :=
    starts_cases (· = [k, l]) (by rintro _ rfl; simpa using ⟨hk, hl⟩) h
  · exact .inl ⟨rest, rest', hts, hts', hrest⟩
  · exact .inr ⟨fun rest => hts _ rest rfl, fun rest => hts' _ rest rfl⟩

/-- Both lists start with a token of one kind, or none does. -/
theorem kind_cases {α : Type} (kind : α → Token) (hkind : ∀ a, (kind a).isText = false) (h : TokensPlainer may ts ts') :
    (∃ a rest rest', ts = kind a :: rest ∧ ts' = kind a :: rest' ∧ TokensPlainer may rest rest') ∨
      (∀ a rest, ts = kind a :: rest → False) ∧ ∀ a rest, ts' = kind a :: rest → False := by
  obtain ⟨_, rest, rest', ⟨a, rfl⟩, hts, hts', hrest⟩ | ⟨hts, hts'⟩ :=
    starts_cases (∃ a, · = [kind a]) (by rintro _ ⟨a, rfl⟩; simpa using hkind a) h
  · exact .inl ⟨a, rest, rest', hts, hts', hrest⟩
  · exact .inr ⟨fun a rest => hts _ rest ⟨a, rfl⟩, fun a rest => hts' _ rest ⟨a, rfl⟩⟩

/-- Both lists start with a sign, or none does. -/
theorem sign_cases (h : TokensPlainer may ts ts') :
    (∃ s rest rest', ts = .sign s :: rest ∧ ts' = .sign s :: rest' ∧ TokensPlainer may rest rest') ∨
      (∀ s rest, ts = .sign s :: rest → False) ∧ ∀ s rest, ts' = .sign s :: rest → False :=
  kind_cases Token.sign (fun _ => rfl) h

/-- Both lists start with a name, or none does. -/
theorem name_cases (h : TokensPlainer may ts ts') :
    (∃ s rest rest', ts = .name s :: rest ∧ ts' = .name s :: rest' ∧ TokensPlainer may rest rest') ∨
      (∀ s rest, ts = .name s :: rest → False) ∧ ∀ s rest, ts' = .name s :: rest → False :=
  kind_cases Token.name (fun _ => rfl) h

/-- Both lists start with a name and a token after it, or none does. -/
theorem named_cases (k : Token) (hk : k.isText = false) (h : TokensPlainer may ts ts') :
    (∃ s rest rest', ts = .name s :: k :: rest ∧ ts' = .name s :: k :: rest' ∧ TokensPlainer may rest rest') ∨
      (∀ s rest, ts = .name s :: k :: rest → False) ∧ ∀ s rest, ts' = .name s :: k :: rest → False := by
  obtain ⟨_, rest, rest', ⟨s, rfl⟩, hts, hts', hrest⟩ | ⟨hts, hts'⟩ :=
    starts_cases (∃ s, · = [.name s, k]) (by rintro _ ⟨s, rfl⟩; simpa [Token.isText] using hk) h
  · exact .inl ⟨s, rest, rest', hts, hts', hrest⟩
  · exact .inr ⟨fun s rest => hts _ rest ⟨s, rfl⟩, fun s rest => hts' _ rest ⟨s, rfl⟩⟩

/-! ## Texts side by side -/

/-- What does not look into texts finds the same in tokens that are the same but for quotes. -/
theorem map_eq_of_plainer {α : Type} {f : Token → α} (hf : ∀ s s', f (.text s) = f (.text s'))
    (h : TokensPlainer may ts ts') : ts'.map f = ts.map f := by
  induction h with
  | nil => rfl
  | cons h hrest ih =>
    cases h with
    | same => rw [List.map_cons, List.map_cons, ih]
    | text h => rw [List.map_cons, List.map_cons, ih, hf]

theorem any_eq_of_plainer {p : Token → Bool} (hp : ∀ s s', p (.text s) = p (.text s'))
    (h : TokensPlainer may ts ts') : ts'.any p = ts.any p := by
  have heq := congrArg (List.any · id) (map_eq_of_plainer hp h)
  rwa [List.any_map, List.any_map] at heq

theorem flatMap_eq_of_plainer {α : Type} {f : Token → List α} (hf : ∀ s s', f (.text s) = f (.text s'))
    (h : TokensPlainer may ts ts') : ts'.flatMap f = ts.flatMap f := by
  rw [List.flatMap_def, List.flatMap_def, map_eq_of_plainer hf h]

/-- The text of tokens side by side. -/
theorem foldl_plainer {s s' : String} (h : TokensPlainer may ts ts')
    (hs : List.Forall₂ (PlainFor may) s.toList s'.toList) :
    List.Forall₂ (PlainFor may) (ts.foldl (fun s => fun | .text t => s ++ t | _ => s) s).toList
      (ts'.foldl (fun s => fun | .text t => s ++ t | _ => s) s').toList := by
  induction h generalizing s s' with
  | nil => exact hs
  | @cons k l ts ts' hkl hrest ih =>
    refine ih ?_
    cases hkl with
    | text h =>
      rw [String.toList_append, String.toList_append]
      exact List.rel_append hs h
    | same =>
      dsimp only
      split
      · rw [String.toList_append, String.toList_append]
        exact List.rel_append hs (List.forall₂_same.2 fun c _ => .inl rfl)
      · exact hs

theorem joinTexts?_alike (h : TokensPlainer may ts ts') :
    Option.Rel (Term.Plainer may) (joinTexts? ts) (joinTexts? ts') := by
  unfold joinTexts?
  dsimp only
  rw [any_eq_of_plainer (fun _ _ => rfl) h, any_eq_of_plainer (fun _ _ => rfl) h,
    any_eq_of_plainer (fun _ _ => rfl) h, flatMap_eq_of_plainer (fun _ _ => rfl) h]
  split
  · exact .none
  · split
    · exact .some (.forbidden _)
    · split
      · exact .some (.constant _)
      · exact .some (.text (foldl_plainer h .nil))

theorem Token.Plainer.isText_eq (h : k.Plainer may l) : l.isText = k.isText := by
  cases h <;> rfl

theorem takeWhile_isText (h : TokensPlainer may ts ts') :
    TokensPlainer may (ts.takeWhile Token.isText) (ts'.takeWhile Token.isText) ∧
      TokensPlainer may (ts.dropWhile Token.isText) (ts'.dropWhile Token.isText) := by
  induction h with
  | nil => exact ⟨.nil, .nil⟩
  | @cons k l ts ts' hkl hrest ih =>
    rw [List.takeWhile_cons, List.takeWhile_cons, List.dropWhile_cons, List.dropWhile_cons, hkl.isText_eq]
    split
    · exact ⟨.cons hkl ih.1, ih.2⟩
    · exact ⟨.nil, .cons hkl hrest⟩

end Condition
end Walkthrough
