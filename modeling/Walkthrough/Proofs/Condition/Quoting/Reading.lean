/-
# Reading and plain quotes

No function of the reader looks into a text, so tokens that are the same but for quotes are read as terms that are the
same but for quotes, or not at all. This is shown for all functions together, one lemma for each and by induction on
the number of steps (`readsAlike`).
-/

import Walkthrough.Proofs.Condition.Quoting.Heads

namespace Walkthrough
namespace Condition

variable {may : Bool} {n : Nat} {t t' : Term} {ts ts' : List Token} {k : Token}

/-! ## Results of reading -/

/-- Reading one thing after another. -/
theorem rel_bind {α β : Type} {R : α → α → Prop} {S : β → β → Prop} {x x' : Option α} {f f' : α → Option β}
    (h : Option.Rel R x x') (hf : ∀ a a', R a a' → Option.Rel S (f a) (f' a')) :
    Option.Rel S (x >>= f) (x' >>= f') := by
  cases h with
  | none => exact .none
  | some h => exact hf _ _ h

/-- The same results but for quotes: what was read, and the tokens that are left. -/
def ReadPlainer {α : Type} (may : Bool) (R : α → α → Prop) (p p' : α × List Token) : Prop :=
  R p.1 p'.1 ∧ TokensPlainer may p.2 p'.2

/-- Both fail, or what is read of tokens is the same but for quotes. -/
def Reads {α : Type} (may : Bool) (R : α → α → Prop) (read read' : List Token → Option (α × List Token)) : Prop :=
  ∀ {ts ts'}, TokensPlainer may ts ts' → Option.Rel (ReadPlainer may R) (read ts) (read' ts')

/-- Both fail, or what is left of tokens is the same but for quotes. -/
def Skips (may : Bool) (skip : List Token → Option (List Token)) : Prop :=
  ∀ {ts ts'}, TokensPlainer may ts ts' → Option.Rel (TokensPlainer may) (skip ts) (skip ts')

/-- Something is read that no condition may contain. -/
theorem forbidden_alike {α : Type} {R : α → α → Prop} {x x' : Option (α × List Token)} (construct : Construct)
    (h : Option.Rel (ReadPlainer may R) x x') : Option.Rel (ReadPlainer may (Term.Plainer may))
      (do
        let (_, ts) ← x
        return (.forbidden construct, ts))
      (do
        let (_, ts) ← x'
        return (.forbidden construct, ts)) :=
  rel_bind h fun _ _ hleft => .some ⟨.forbidden construct, hleft.2⟩

/-- A sign that has to come next. -/
theorem expect?_alike (close : Sign) : Skips may (expect? close) := by
  intro ts ts' hts
  obtain ⟨s, rest, rest', rfl, rfl, hrest⟩ | ⟨hsign, hsign'⟩ := sign_cases hts
  · rw [expect?, expect?]
    split
    · exact .some hrest
    · exact .none
  · rw [expect?.eq_2 _ _ hsign, expect?.eq_2 _ _ hsign']
    exact .none

theorem compareOp?_alike : Reads may Eq compareOp? compareOp? := by
  intro ts ts' hts
  obtain ⟨rest, rest', rfl, rfl, hrest⟩ | ⟨hnotIn, hnotIn'⟩ := pair_cases (.keyword .not) (.keyword .in_) rfl rfl hts
  · exact .some ⟨rfl, hrest⟩
  obtain ⟨rest, rest', rfl, rfl, hrest⟩ | ⟨hisNot, hisNot'⟩ := pair_cases (.keyword .is) (.keyword .not) rfl rfl hts
  · exact .some ⟨rfl, hrest⟩
  obtain ⟨rest, rest', rfl, rfl, hrest⟩ | ⟨hin, hin'⟩ := head_cases (.keyword .in_) rfl hts
  · exact .some ⟨rfl, hrest⟩
  obtain ⟨rest, rest', rfl, rfl, hrest⟩ | ⟨his, his'⟩ := head_cases (.keyword .is) rfl hts
  · rw [compareOp?.eq_10 _ fun _ h => hisNot _ (congrArg _ h), compareOp?.eq_10 _ fun _ h => hisNot' _ (congrArg _ h)]
    exact .some ⟨rfl, hrest⟩
  obtain ⟨s, rest, rest', rfl, rfl, hrest⟩ | ⟨hsign, hsign'⟩ := sign_cases hts
  · cases s <;> first | exact .some ⟨rfl, hrest⟩ | exact .none
  · rw [compareOp?.eq_11 ts (hsign _) (hsign _) (hsign _) (hsign _) (hsign _) (hsign _) hnotIn hin hisNot his,
      compareOp?.eq_11 ts' (hsign' _) (hsign' _) (hsign' _) (hsign' _) (hsign' _) (hsign' _) hnotIn' hin' hisNot' his']
    exact .none

theorem unarySign?_alike : Reads may Eq unarySign? unarySign? := by
  intro ts ts' hts
  obtain ⟨s, rest, rest', rfl, rfl, hrest⟩ | ⟨hsign, hsign'⟩ := sign_cases hts
  · cases s <;> first | exact .some ⟨rfl, hrest⟩ | exact .none
  · rw [unarySign?.eq_4 ts (hsign _) (hsign _) (hsign _), unarySign?.eq_4 ts' (hsign' _) (hsign' _) (hsign' _)]
    exact .none

theorem startsClause_eq (hts : TokensPlainer may ts ts') : startsClause ts' = startsClause ts := by
  obtain ⟨rest, rest', rfl, rfl, -⟩ | ⟨hfor, hfor'⟩ := head_cases (.keyword .for_) rfl hts
  · rfl
  obtain ⟨rest, rest', rfl, rfl, -⟩ | ⟨hasync, hasync'⟩ :=
    pair_cases (.keyword .async) (.keyword .for_) rfl rfl hts
  · rfl
  rw [startsClause.eq_3 ts hfor hasync, startsClause.eq_3 ts' hfor' hasync']

/-! ## Parts of readers -/

/-- Nothing else starts a parameter. -/
theorem parameters?_eq_none {seen : Parameters} (hcolon : ∀ rest, ts = .sign .colon :: rest → False)
    (hover : ∀ rest, ts = .sign .over :: rest → False) (htimes : ∀ rest, ts = .sign .times :: rest → False)
    (hpower : ∀ s rest, ts = .sign .power :: .name s :: rest → False)
    (hname : ∀ s rest, ts = .name s :: rest → False) : parameters? (n + 1) seen ts = none :=
  parameters?.eq_11 (n + 1) _ _ (Nat.succ_ne_zero n) (fun _ rest _ => hcolon rest) (fun _ rest _ => hover rest)
    (fun _ rest _ => htimes rest) (fun _ s rest _ => hpower s rest) (fun _ s _ _ => hname s _)
    fun _ s rest _ => hname s rest

/-- A junction of which the first operand was read. -/
def afterFirst? (n : Nat) (isOr : Bool) (first : Term) (ts : List Token) : Option (Term × List Token) := do
  let (rest, ts) ← junctionRest? n isOr ts
  return (if rest.isEmpty then first else .junction isOr (first :: rest), ts)

/-- What follows an element between square brackets. -/
def afterSlice? (n : Nat) : List Token → Option (List Token)
  | .sign .comma :: .sign .closeSquare :: ts => some ts
  | .sign .comma :: ts => slices? n ts
  | ts => expect? .closeSquare ts

/-- What follows the first word of a clause. -/
def afterFor? (n : Nat) (ts : List Token) : Option (List Token) := do
  match ← targets? n ts with
  | .keyword .in_ :: ts =>
    let (_, ts) ← junction? n true ts
    let ts ← filters? n ts
    if startsClause ts then clauses? n ts else some ts
  | _ => none

/-- What follows a target. -/
def afterTarget? (n : Nat) : List Token → Option (List Token)
  | .sign .comma :: .keyword .in_ :: ts => some (.keyword .in_ :: ts)
  | .sign .comma :: ts => targets? n ts
  | ts => some ts

/-- A target of a clause, and what follows it. -/
def target? (n : Nat) (ts : List Token) : Option (List Token) := do
  let (t, ts) ← primary? n ts
  if !t.isTarget then none else afterTarget? n ts

/-- Quoted texts side by side. -/
def joined? (n : Nat) (ts : List Token) : Option (Term × List Token) :=
  if fieldsFit n ((ts.takeWhile Token.isText).flatMap Token.fields) then
    (joinTexts? (ts.takeWhile Token.isText)).map fun joined => (joined, ts.dropWhile Token.isText)
  else none

theorem atom?_isText (hk : k.isText = true) : atom? (n + 1) (k :: ts) = joined? n (k :: ts) := by
  cases k with
  | text s => rfl
  | bytes bs => rfl
  | formatted fields => rfl
  | _ => cases hk

theorem joined?_alike : Reads may (Term.Plainer may) (joined? n) (joined? n) := by
  intro ts ts' hts
  obtain ⟨htake, hdrop⟩ := takeWhile_isText hts
  have hjoin := joinTexts?_alike htake
  rw [joined?, joined?, flatMap_eq_of_plainer (fun _ _ => rfl) htake]
  split
  · generalize joinTexts? (ts.takeWhile Token.isText) = x, joinTexts? (ts'.takeWhile Token.isText) = x' at hjoin ⊢
    cases hjoin with
    | none => exact .none
    | some h => exact .some ⟨h, hdrop⟩
  · exact .none

/-! ## Reading -/

/-- **Reading in so many steps** does not depend on quotes. -/
structure ReadsAlike (may : Bool) (n : Nat) : Prop where
  expression : Reads may (Term.Plainer may) (expression? n) (expression? n)
  parameters (seen : Parameters) : Skips may (parameters? n seen)
  moreParameters (seen : Parameters) : Skips may (moreParameters? n seen)
  junction (isOr : Bool) : Reads may (Term.Plainer may) (junction? n isOr) (junction? n isOr)
  junctionRest (isOr : Bool) : Reads may (AllPlainer may) (junctionRest? n isOr) (junctionRest? n isOr)
  inversion : Reads may (Term.Plainer may) (inversion? n) (inversion? n)
  comparisonRest : Reads may (ChainPlainer may) (comparisonRest? n) (comparisonRest? n)
  binary (level : BinaryLevel) : Reads may (Term.Plainer may) (binary? n level) (binary? n level)
  binaryRest (level : BinaryLevel) {left left' : Term} (h : left.Plainer may left') :
    Reads may (Term.Plainer may) (binaryRest? n level left) (binaryRest? n level left')
  factor : Reads may (Term.Plainer may) (factor? n) (factor? n)
  awaited : Reads may (Term.Plainer may) (awaited? n) (awaited? n)
  primary : Reads may (Term.Plainer may) (primary? n) (primary? n)
  trailers {t t' : Term} (h : t.Plainer may t') : Reads may (Term.Plainer may) (trailers? n t) (trailers? n t')
  arguments (phase : ArgumentPhase) : Reads may (fun p p' => AllPlainer may p.1 p'.1 ∧ p'.2 = p.2)
    (arguments? n phase) (arguments? n phase)
  moreArguments (phase : ArgumentPhase) : Reads may (fun p p' => AllPlainer may p.1 p'.1 ∧ p'.2 = p.2)
    (moreArguments? n phase) (moreArguments? n phase)
  slices : Skips may (slices? n)
  sliceRest : Skips may (sliceRest? n)
  sliceBound : Skips may (sliceBound? n)
  element : Reads may (Term.Plainer may) (element? n) (element? n)
  elements (close : Sign) : Reads may (AllPlainer may) (elements? n close) (elements? n close)
  clauses : Skips may (clauses? n)
  filters : Skips may (filters? n)
  targets : Skips may (targets? n)
  atom : Reads may (Term.Plainer may) (atom? n) (atom? n)
  round : Reads may (Term.Plainer may) (round? n) (round? n)
  square : Reads may (Term.Plainer may) (square? n) (square? n)
  curly : Reads may (Term.Plainer may) (curly? n) (curly? n)
  moreEntries : Skips may (moreEntries? n)

variable (ih : ReadsAlike may n)
include ih

/-! ### Expressions -/

theorem expression_alike : Reads may (Term.Plainer may) (expression? (n + 1)) (expression? (n + 1)) := by
  intro ts ts' hts
  obtain ⟨rest, rest', rfl, rfl, hrest⟩ | ⟨hne, hne'⟩ := head_cases (.keyword .lambda) rfl hts
  · rw [expression?.eq_2, expression?.eq_2]
    refine rel_bind (ih.parameters {} hrest) fun _ _ hafter => ?_
    exact forbidden_alike _ (ih.expression hafter)
  · rw [expression?.eq_3 _ _ hne, expression?.eq_3 _ _ hne']
    refine rel_bind (ih.junction true hts) ?_
    rintro ⟨body, after⟩ ⟨body', after'⟩ ⟨hbody, hafter⟩
    obtain ⟨rest, rest', rfl, rfl, hrest⟩ | ⟨hif, hif'⟩ := head_cases (.keyword .if_) rfl hafter
    · refine rel_bind (ih.junction true hrest) ?_
      rintro ⟨test, after⟩ ⟨test', after'⟩ ⟨htest, hafter⟩
      obtain ⟨rest, rest', rfl, rfl, hrest⟩ | ⟨helse, helse'⟩ := head_cases (.keyword .else_) rfl hafter
      · refine rel_bind (ih.expression hrest) ?_
        rintro ⟨orElse, left⟩ ⟨orElse', left'⟩ ⟨horElse, hleft⟩
        exact .some ⟨.conditional htest hbody horElse, hleft⟩
      · -- With neither list going on with the word, both matches end in their last case.
        dsimp only
        split
        · exact (helse _ rfl).elim
        · exact .none
    · dsimp only
      split
      · exact (hif _ rfl).elim
      · exact .some ⟨hbody, hafter⟩

/-- Parameters that are gathered into one, or those after the sign for it. -/
theorem gathered_alike (seen : Parameters) (hts : TokensPlainer may ts ts') : Option.Rel (TokensPlainer may)
    (parameters? (n + 1) seen (.sign .times :: ts)) (parameters? (n + 1) seen (.sign .times :: ts')) := by
  obtain ⟨s, rest, rest', rfl, rfl, hrest⟩ | ⟨hname, hname'⟩ := name_cases hts
  · rw [parameters?.eq_4, parameters?.eq_4]
    split
    · exact .none
    · exact ih.moreParameters _ hrest
  obtain ⟨rest, rest', rfl, rfl, hrest⟩ | ⟨hcomma, hcomma'⟩ := head_cases (.sign .comma) rfl hts
  · obtain ⟨s, left, left', rfl, rfl, hleft⟩ | ⟨hnext, hnext'⟩ := name_cases hrest
    · rw [parameters?.eq_5, parameters?.eq_5]
      split
      · exact .none
      · exact ih.parameters _ hrest
    · rw [parameters?.eq_6 _ _ _ hname fun s left h => hnext s left (List.cons.inj h).2,
        parameters?.eq_6 _ _ _ hname' fun s left h => hnext' s left (List.cons.inj h).2, ite_self]
      exact .none
  · rw [parameters?.eq_6 _ _ _ hname fun _ _ => hcomma _, parameters?.eq_6 _ _ _ hname' fun _ _ => hcomma' _,
      ite_self]
    exact .none

omit ih in
/-- Named arguments that are gathered into one parameter, the last. -/
theorem gatheredNamed_alike (seen : Parameters) (hts : TokensPlainer may ts ts') : Option.Rel (TokensPlainer may)
    (parameters? (n + 1) seen (.sign .power :: ts)) (parameters? (n + 1) seen (.sign .power :: ts')) := by
  obtain ⟨s, rest, rest', rfl, rfl, hrest⟩ | ⟨hname, hname'⟩ := name_cases hts
  · obtain ⟨left, left', rfl, rfl, hleft⟩ | ⟨hcomma, hcomma'⟩ := head_cases (.sign .comma) rfl hrest
    · exact expect?_alike .colon hleft
    · rw [parameters?.eq_8 _ _ _ _ hcomma, parameters?.eq_8 _ _ _ _ hcomma']
      exact expect?_alike .colon hrest
  · have hnone : ∀ {rest}, (∀ s after, rest = .name s :: after → False) →
        parameters? (n + 1) seen (.sign .power :: rest) = none := fun hrest =>
      parameters?_eq_none (by rintro _ ⟨⟩) (by rintro _ ⟨⟩) (by rintro _ ⟨⟩)
        (fun s after h => hrest s after (List.cons.inj h).2) (by rintro _ _ ⟨⟩)
    rw [hnone hname, hnone hname']
    exact .none

theorem parameters_alike (seen : Parameters) : Skips may (parameters? (n + 1) seen) := by
  intro ts ts' hts
  obtain ⟨rest, rest', rfl, rfl, hrest⟩ | ⟨hcolon, hcolon'⟩ := head_cases (.sign .colon) rfl hts
  · exact .some hrest
  obtain ⟨rest, rest', rfl, rfl, hrest⟩ | ⟨hover, hover'⟩ := head_cases (.sign .over) rfl hts
  · rw [parameters?.eq_3, parameters?.eq_3]
    split
    · exact ih.moreParameters _ hrest
    · exact .none
  obtain ⟨rest, rest', rfl, rfl, hrest⟩ | ⟨htimes, htimes'⟩ := head_cases (.sign .times) rfl hts
  · exact gathered_alike ih seen hrest
  obtain ⟨rest, rest', rfl, rfl, hrest⟩ | ⟨hpower, hpower'⟩ := head_cases (.sign .power) rfl hts
  · exact gatheredNamed_alike seen hrest
  obtain ⟨s, rest, rest', rfl, rfl, hrest⟩ | ⟨hname, hname'⟩ := name_cases hts
  · obtain ⟨after, after', rfl, rfl, hafter⟩ | ⟨hassign, hassign'⟩ := head_cases (.sign .assign) rfl hrest
    · rw [parameters?.eq_9, parameters?.eq_9]
      refine rel_bind (ih.expression hafter) ?_
      rintro ⟨_, left⟩ ⟨_, left'⟩ ⟨-, hleft⟩
      exact ih.moreParameters _ hleft
    · rw [parameters?.eq_10 _ _ _ _ hassign, parameters?.eq_10 _ _ _ _ hassign']
      split
      · exact .none
      · exact ih.moreParameters _ hrest
  · rw [parameters?_eq_none hcolon hover htimes (fun _ _ => hpower _) hname,
      parameters?_eq_none hcolon' hover' htimes' (fun _ _ => hpower' _) hname']
    exact .none

theorem moreParameters_alike (seen : Parameters) : Skips may (moreParameters? (n + 1) seen) := by
  intro ts ts' hts
  obtain ⟨rest, rest', rfl, rfl, hrest⟩ | ⟨hcomma, hcomma'⟩ := head_cases (.sign .comma) rfl hts
  · exact ih.parameters seen hrest
  · rw [moreParameters?.eq_3 _ _ _ hcomma, moreParameters?.eq_3 _ _ _ hcomma']
    exact expect?_alike .colon hts

theorem afterFirst_alike (isOr : Bool) {first first' : Term} (h : first.Plainer may first') :
    Reads may (Term.Plainer may) (afterFirst? n isOr first) (afterFirst? n isOr first') := by
  intro ts ts' hts
  refine rel_bind (ih.junctionRest isOr hts) ?_
  rintro ⟨rest, left⟩ ⟨rest', left'⟩ ⟨hrest, hleft⟩
  refine .some ⟨?_, hleft⟩
  dsimp only
  rw [hrest.isEmpty_eq]
  split
  · exact h
  · exact .junction (.cons h hrest)

theorem junction_alike (isOr : Bool) :
    Reads may (Term.Plainer may) (junction? (n + 1) isOr) (junction? (n + 1) isOr) := by
  intro ts ts' hts
  rw [junction?.eq_2, junction?.eq_2]
  split
  · exact rel_bind (ih.junction false hts) fun _ _ h => afterFirst_alike ih isOr h.1 h.2
  · exact rel_bind (ih.inversion hts) fun _ _ h => afterFirst_alike ih isOr h.1 h.2

theorem junctionRest_alike (isOr : Bool) :
    Reads may (AllPlainer may) (junctionRest? (n + 1) isOr) (junctionRest? (n + 1) isOr) := by
  intro ts ts' hts
  obtain ⟨rest, rest', rfl, rfl, hrest⟩ | ⟨hor, hor'⟩ := head_cases (.keyword .or) rfl hts
  · rw [junctionRest?.eq_2, junctionRest?.eq_2]
    cases isOr
    · exact .some ⟨.nil, hts⟩
    · refine rel_bind (ih.junction false hrest) ?_
      rintro ⟨t, after⟩ ⟨t', after'⟩ ⟨ht, hafter⟩
      refine rel_bind (ih.junctionRest true hafter) ?_
      rintro ⟨more, left⟩ ⟨more', left'⟩ ⟨hmore, hleft⟩
      exact .some ⟨.cons ht hmore, hleft⟩
  obtain ⟨rest, rest', rfl, rfl, hrest⟩ | ⟨hand, hand'⟩ := head_cases (.keyword .and) rfl hts
  · rw [junctionRest?.eq_3, junctionRest?.eq_3]
    cases isOr
    · refine rel_bind (ih.inversion hrest) ?_
      rintro ⟨t, after⟩ ⟨t', after'⟩ ⟨ht, hafter⟩
      refine rel_bind (ih.junctionRest false hafter) ?_
      rintro ⟨more, left⟩ ⟨more', left'⟩ ⟨hmore, hleft⟩
      exact .some ⟨.cons ht hmore, hleft⟩
    · exact .some ⟨.nil, hts⟩
  · rw [junctionRest?.eq_4 _ _ _ hor hand, junctionRest?.eq_4 _ _ _ hor' hand']
    exact .some ⟨.nil, hts⟩

theorem inversion_alike : Reads may (Term.Plainer may) (inversion? (n + 1)) (inversion? (n + 1)) := by
  intro ts ts' hts
  obtain ⟨rest, rest', rfl, rfl, hrest⟩ | ⟨hnot, hnot'⟩ := head_cases (.keyword .not) rfl hts
  · rw [inversion?.eq_2, inversion?.eq_2]
    refine rel_bind (ih.inversion hrest) ?_
    rintro ⟨t, left⟩ ⟨t', left'⟩ ⟨ht, hleft⟩
    exact .some ⟨.unary ht, hleft⟩
  · rw [inversion?.eq_3 _ _ hnot, inversion?.eq_3 _ _ hnot']
    refine rel_bind (ih.binary .bitOr hts) ?_
    rintro ⟨first, after⟩ ⟨first', after'⟩ ⟨hfirst, hafter⟩
    refine rel_bind (ih.comparisonRest hafter) ?_
    rintro ⟨rest, left⟩ ⟨rest', left'⟩ ⟨hrest, hleft⟩
    refine .some ⟨?_, hleft⟩
    dsimp only
    rw [hrest.isEmpty_eq]
    split
    · exact hfirst
    · exact .comparison hfirst hrest

theorem comparisonRest_alike : Reads may (ChainPlainer may) (comparisonRest? (n + 1)) (comparisonRest? (n + 1)) := by
  intro ts ts' hts
  rw [comparisonRest?.eq_2, comparisonRest?.eq_2]
  have hop := compareOp?_alike hts
  generalize compareOp? ts = op, compareOp? ts' = op' at hop ⊢
  cases hop with
  | none => exact .some ⟨.nil, hts⟩
  | @some p p' h =>
    obtain ⟨op, after⟩ := p
    obtain ⟨op', after'⟩ := p'
    obtain ⟨rfl, hafter⟩ := h
    refine rel_bind (ih.binary .bitOr hafter) ?_
    rintro ⟨t, after⟩ ⟨t', after'⟩ ⟨ht, hafter⟩
    refine rel_bind (ih.comparisonRest hafter) ?_
    rintro ⟨more, left⟩ ⟨more', left'⟩ ⟨hmore, hleft⟩
    exact .some ⟨.cons ht hmore, hleft⟩

theorem binary_alike (level : BinaryLevel) :
    Reads may (Term.Plainer may) (binary? (n + 1) level) (binary? (n + 1) level) := by
  intro ts ts' hts
  rw [binary?.eq_2, binary?.eq_2]
  split
  · refine rel_bind (ih.binary _ hts) ?_
    rintro ⟨first, after⟩ ⟨first', after'⟩ ⟨hfirst, hafter⟩
    exact ih.binaryRest level hfirst hafter
  · refine rel_bind (ih.factor hts) ?_
    rintro ⟨first, after⟩ ⟨first', after'⟩ ⟨hfirst, hafter⟩
    exact ih.binaryRest level hfirst hafter

theorem binaryRest_alike (level : BinaryLevel) {left left' : Term} (h : left.Plainer may left') :
    Reads may (Term.Plainer may) (binaryRest? (n + 1) level left) (binaryRest? (n + 1) level left') := by
  intro ts ts' hts
  obtain ⟨s, rest, rest', rfl, rfl, hrest⟩ | ⟨hsign, hsign'⟩ := sign_cases hts
  · rw [binaryRest?.eq_2, binaryRest?.eq_2]
    split
    · exact .some ⟨h, hts⟩
    · split
      · refine rel_bind (ih.binary _ hrest) ?_
        rintro ⟨right, after⟩ ⟨right', after'⟩ ⟨hright, hafter⟩
        exact ih.binaryRest level (.binary h hright) hafter
      · refine rel_bind (ih.factor hrest) ?_
        rintro ⟨right, after⟩ ⟨right', after'⟩ ⟨hright, hafter⟩
        exact ih.binaryRest level (.binary h hright) hafter
  · rw [binaryRest?.eq_3 _ _ _ _ hsign, binaryRest?.eq_3 _ _ _ _ hsign']
    exact .some ⟨h, hts⟩

theorem factor_alike : Reads may (Term.Plainer may) (factor? (n + 1)) (factor? (n + 1)) := by
  intro ts ts' hts
  rw [factor?.eq_2, factor?.eq_2]
  have hop := unarySign?_alike hts
  generalize unarySign? ts = op, unarySign? ts' = op' at hop ⊢
  cases hop with
  | none =>
    refine rel_bind (ih.awaited hts) ?_
    rintro ⟨base, after⟩ ⟨base', after'⟩ ⟨hbase, hafter⟩
    obtain ⟨rest, rest', rfl, rfl, hrest⟩ | ⟨hpower, hpower'⟩ := head_cases (.sign .power) rfl hafter
    · refine rel_bind (ih.factor hrest) ?_
      rintro ⟨exponent, left⟩ ⟨exponent', left'⟩ ⟨hexponent, hleft⟩
      exact .some ⟨.binary hbase hexponent, hleft⟩
    · dsimp only
      split
      · exact (hpower _ rfl).elim
      · exact .some ⟨hbase, hafter⟩
  | @some p p' h =>
    obtain ⟨op, after⟩ := p
    obtain ⟨op', after'⟩ := p'
    obtain ⟨rfl, hafter⟩ := h
    refine rel_bind (ih.factor hafter) ?_
    rintro ⟨t, left⟩ ⟨t', left'⟩ ⟨ht, hleft⟩
    exact .some ⟨.unary ht, hleft⟩

theorem awaited_alike : Reads may (Term.Plainer may) (awaited? (n + 1)) (awaited? (n + 1)) := by
  intro ts ts' hts
  obtain ⟨rest, rest', rfl, rfl, hrest⟩ | ⟨hawait, hawait'⟩ := head_cases (.keyword .await) rfl hts
  · rw [awaited?.eq_2, awaited?.eq_2]
    exact forbidden_alike _ (ih.primary hrest)
  · rw [awaited?.eq_3 _ _ hawait, awaited?.eq_3 _ _ hawait']
    exact ih.primary hts

/-! ### Operands -/

theorem primary_alike : Reads may (Term.Plainer may) (primary? (n + 1)) (primary? (n + 1)) := by
  intro ts ts' hts
  rw [primary?.eq_2, primary?.eq_2]
  refine rel_bind (ih.atom hts) ?_
  rintro ⟨t, after⟩ ⟨t', after'⟩ ⟨ht, hafter⟩
  exact ih.trailers ht hafter

theorem trailers_alike (h : t.Plainer may t') :
    Reads may (Term.Plainer may) (trailers? (n + 1) t) (trailers? (n + 1) t') := by
  intro ts ts' hts
  obtain ⟨rest, rest', rfl, rfl, hrest⟩ | ⟨hdot, hdot'⟩ := head_cases (.sign .dot) rfl hts
  · obtain ⟨s, after, after', rfl, rfl, hafter⟩ | ⟨hname, hname'⟩ := name_cases hrest
    · exact ih.trailers (.forbidden _) hafter
    · rw [trailers?.eq_5 _ _ _ hname, trailers?.eq_5 _ _ _ hname']
      exact .none
  obtain ⟨rest, rest', rfl, rfl, hrest⟩ | ⟨hround, hround'⟩ := head_cases (.sign .openRound) rfl hts
  · rw [trailers?.eq_3, trailers?.eq_3]
    refine rel_bind (ih.arguments .positional hrest) ?_
    rintro ⟨⟨items, keywords⟩, after⟩ ⟨⟨items', keywords'⟩, after'⟩ ⟨⟨hitems, rfl⟩, hafter⟩
    exact ih.trailers (.call h hitems) hafter
  obtain ⟨rest, rest', rfl, rfl, hrest⟩ | ⟨hsquare, hsquare'⟩ := head_cases (.sign .openSquare) rfl hts
  · rw [trailers?.eq_4, trailers?.eq_4]
    exact rel_bind (ih.slices hrest) fun _ _ hafter => ih.trailers (.forbidden _) hafter
  · rw [trailers?.eq_6 _ _ _ (fun _ _ => hdot _) hround hsquare hdot,
      trailers?.eq_6 _ _ _ (fun _ _ => hdot' _) hround' hsquare' hdot']
    exact .some ⟨h, hts⟩

/-- What ends a comprehension. -/
theorem comprehension_alike (close : Sign) {α : Type} {R : α → α → Prop} {a a' : α} (h : R a a') :
    Reads may R (fun ts => do return (a, ← expect? close (← clauses? n ts)))
      (fun ts => do return (a', ← expect? close (← clauses? n ts))) := fun hts =>
  rel_bind (ih.clauses hts) fun _ _ hafter => rel_bind (expect?_alike close hafter) fun _ _ hleft => .some ⟨h, hleft⟩

theorem arguments_alike (phase : ArgumentPhase) : Reads may (fun p p' => AllPlainer may p.1 p'.1 ∧ p'.2 = p.2)
    (arguments? (n + 1) phase) (arguments? (n + 1) phase) := by
  intro ts ts' hts
  obtain ⟨rest, rest', rfl, rfl, hrest⟩ | ⟨hround, hround'⟩ := head_cases (.sign .closeRound) rfl hts
  · exact .some ⟨⟨.nil, rfl⟩, hrest⟩
  obtain ⟨rest, rest', rfl, rfl, hrest⟩ | ⟨htimes, htimes'⟩ := head_cases (.sign .times) rfl hts
  · rw [arguments?.eq_3, arguments?.eq_3]
    split
    · exact .none
    · refine rel_bind (ih.expression hrest) ?_
      rintro ⟨_, after⟩ ⟨_, after'⟩ ⟨-, hafter⟩
      refine rel_bind (ih.moreArguments phase hafter) ?_
      rintro ⟨⟨more, keywords⟩, left⟩ ⟨⟨more', keywords'⟩, left'⟩ ⟨⟨hmore, hkeywords⟩, hleft⟩
      exact .some ⟨⟨.cons (.forbidden _) hmore, hkeywords⟩, hleft⟩
  obtain ⟨rest, rest', rfl, rfl, hrest⟩ | ⟨hpower, hpower'⟩ := head_cases (.sign .power) rfl hts
  · rw [arguments?.eq_4, arguments?.eq_4]
    refine rel_bind (ih.expression hrest) ?_
    rintro ⟨_, after⟩ ⟨_, after'⟩ ⟨-, hafter⟩
    exact ih.moreArguments .mapping hafter
  obtain ⟨s, rest, rest', rfl, rfl, hrest⟩ | ⟨hassign, hassign'⟩ := named_cases (.sign .assign) rfl hts
  · rw [arguments?.eq_5, arguments?.eq_5]
    refine rel_bind (ih.expression hrest) ?_
    rintro ⟨_, after⟩ ⟨_, after'⟩ ⟨-, hafter⟩
    exact ih.moreArguments _ hafter
  · rw [arguments?.eq_6 _ _ _ hround htimes hpower hassign, arguments?.eq_6 _ _ _ hround' htimes' hpower' hassign']
    split
    · exact .none
    · refine rel_bind (ih.element hts) ?_
      rintro ⟨t, after⟩ ⟨t', after'⟩ ⟨ht, hafter⟩
      dsimp only
      rw [startsClause_eq hafter]
      split
      · exact comprehension_alike ih .closeRound ⟨.cons (.forbidden _) .nil, rfl⟩ hafter
      · refine rel_bind (ih.moreArguments phase hafter) ?_
        rintro ⟨⟨more, keywords⟩, left⟩ ⟨⟨more', keywords'⟩, left'⟩ ⟨⟨hmore, hkeywords⟩, hleft⟩
        exact .some ⟨⟨.cons ht hmore, hkeywords⟩, hleft⟩

theorem moreArguments_alike (phase : ArgumentPhase) : Reads may (fun p p' => AllPlainer may p.1 p'.1 ∧ p'.2 = p.2)
    (moreArguments? (n + 1) phase) (moreArguments? (n + 1) phase) := by
  intro ts ts' hts
  obtain ⟨rest, rest', rfl, rfl, hrest⟩ | ⟨hcomma, hcomma'⟩ := head_cases (.sign .comma) rfl hts
  · exact ih.arguments phase hrest
  obtain ⟨rest, rest', rfl, rfl, hrest⟩ | ⟨hround, hround'⟩ := head_cases (.sign .closeRound) rfl hts
  · exact .some ⟨⟨.nil, rfl⟩, hrest⟩
  · rw [moreArguments?.eq_4 _ _ _ hcomma hround, moreArguments?.eq_4 _ _ _ hcomma' hround']
    exact .none

theorem afterSlice_alike : Skips may (afterSlice? n) := by
  intro ts ts' hts
  obtain ⟨rest, rest', rfl, rfl, hrest⟩ | ⟨hcomma, hcomma'⟩ := head_cases (.sign .comma) rfl hts
  · obtain ⟨left, left', rfl, rfl, hleft⟩ | ⟨hclose, hclose'⟩ := head_cases (.sign .closeSquare) rfl hrest
    · exact .some hleft
    · rw [afterSlice?.eq_2 _ _ hclose, afterSlice?.eq_2 _ _ hclose']
      exact ih.slices hrest
  · rw [afterSlice?.eq_3 _ _ (fun _ => hcomma _) hcomma, afterSlice?.eq_3 _ _ (fun _ => hcomma' _) hcomma']
    exact expect?_alike .closeSquare hts

theorem slices_alike : Skips may (slices? (n + 1)) := by
  intro ts ts' hts
  have hmore : ∀ {after after'}, TokensPlainer may after after' →
      Option.Rel (TokensPlainer may) (afterSlice? n after) (afterSlice? n after') := afterSlice_alike ih
  obtain ⟨rest, rest', rfl, rfl, hrest⟩ | ⟨hcolon, hcolon'⟩ := head_cases (.sign .colon) rfl hts
  · exact rel_bind (ih.sliceRest hrest) fun _ _ => hmore
  · rw [slices?.eq_3 _ _ hcolon, slices?.eq_3 _ _ hcolon']
    have hitem := ih.element hts
    generalize element? n ts = item, element? n ts' = item' at hitem ⊢
    cases hitem with
    | none => exact .none
    | @some p p' h =>
      obtain ⟨t, after⟩ := p
      obtain ⟨t', after'⟩ := p'
      obtain ⟨ht, hafter⟩ := h
      obtain ⟨rest, rest', rfl, rfl, hrest⟩ | ⟨hbound, hbound'⟩ := head_cases (.sign .colon) rfl hafter
      · dsimp only at ht ⊢
        rw [ht.isStarred_eq]
        split
        · exact .none
        · exact rel_bind (ih.sliceRest hrest) fun _ _ => hmore
      · split
        · next h =>
          cases h
          exact (hbound _ rfl).elim
        · next h =>
          cases h
          exact hmore hafter
        · next h => cases h

theorem sliceRest_alike : Skips may (sliceRest? (n + 1)) := by
  intro ts ts' hts
  rw [sliceRest?.eq_2, sliceRest?.eq_2]
  refine rel_bind (ih.sliceBound hts) fun after after' hafter => ?_
  obtain ⟨rest, rest', rfl, rfl, hrest⟩ | ⟨hcolon, hcolon'⟩ := head_cases (.sign .colon) rfl hafter
  · exact ih.sliceBound hrest
  · split
    · exact (hcolon _ rfl).elim
    · exact .some hafter

theorem sliceBound_alike : Skips may (sliceBound? (n + 1)) := by
  intro ts ts' hts
  obtain ⟨rest, rest', rfl, rfl, hrest⟩ | ⟨hcolon, hcolon'⟩ := head_cases (.sign .colon) rfl hts
  · exact .some hts
  obtain ⟨rest, rest', rfl, rfl, hrest⟩ | ⟨hcomma, hcomma'⟩ := head_cases (.sign .comma) rfl hts
  · exact .some hts
  obtain ⟨rest, rest', rfl, rfl, hrest⟩ | ⟨hclose, hclose'⟩ := head_cases (.sign .closeSquare) rfl hts
  · exact .some hts
  · rw [sliceBound?.eq_5 _ _ hcolon hcomma hclose, sliceBound?.eq_5 _ _ hcolon' hcomma' hclose']
    have hbound := ih.expression hts
    generalize expression? n ts = bound, expression? n ts' = bound' at hbound ⊢
    cases hbound with
    | none => exact .none
    | some h => exact .some h.2

theorem element_alike : Reads may (Term.Plainer may) (element? (n + 1)) (element? (n + 1)) := by
  intro ts ts' hts
  obtain ⟨rest, rest', rfl, rfl, hrest⟩ | ⟨htimes, htimes'⟩ := head_cases (.sign .times) rfl hts
  · rw [element?.eq_2, element?.eq_2]
    exact forbidden_alike _ (ih.binary .bitOr hrest)
  obtain ⟨s, rest, rest', rfl, rfl, hrest⟩ | ⟨hdefine, hdefine'⟩ := named_cases (.sign .define) rfl hts
  · rw [element?.eq_3, element?.eq_3]
    exact forbidden_alike _ (ih.expression hrest)
  · rw [element?.eq_4 _ _ htimes hdefine, element?.eq_4 _ _ htimes' hdefine']
    exact ih.expression hts

theorem elements_alike (close : Sign) :
    Reads may (AllPlainer may) (elements? (n + 1) close) (elements? (n + 1) close) := by
  intro ts ts' hts
  rw [elements?.eq_2, elements?.eq_2]
  have hclose := expect?_alike close hts
  generalize expect? close ts = closed, expect? close ts' = closed' at hclose ⊢
  cases hclose with
  | some h => exact .some ⟨.nil, h⟩
  | none =>
    refine rel_bind (ih.element hts) ?_
    rintro ⟨t, after⟩ ⟨t', after'⟩ ⟨ht, hafter⟩
    obtain ⟨rest, rest', rfl, rfl, hrest⟩ | ⟨hcomma, hcomma'⟩ := head_cases (.sign .comma) rfl hafter
    · refine rel_bind (ih.elements close hrest) ?_
      rintro ⟨more, left⟩ ⟨more', left'⟩ ⟨hmore, hleft⟩
      exact .some ⟨.cons ht hmore, hleft⟩
    · dsimp only
      split
      · exact (hcomma _ rfl).elim
      · exact rel_bind (expect?_alike close hafter) fun _ _ hleft => .some ⟨.cons ht .nil, hleft⟩

theorem afterFor_alike : Skips may (afterFor? n) := by
  intro ts ts' hts
  refine rel_bind (ih.targets hts) fun after after' hafter => ?_
  obtain ⟨rest, rest', rfl, rfl, hrest⟩ | ⟨hin, hin'⟩ := head_cases (.keyword .in_) rfl hafter
  · refine rel_bind (ih.junction true hrest) ?_
    rintro ⟨_, left⟩ ⟨_, left'⟩ ⟨-, hleft⟩
    refine rel_bind (ih.filters hleft) fun more more' hmore => ?_
    rw [startsClause_eq hmore]
    split
    · exact ih.clauses hmore
    · exact .some hmore
  · split
    · exact (hin _ rfl).elim
    · exact .none

theorem clauses_alike : Skips may (clauses? (n + 1)) := by
  intro ts ts' hts
  have hafter : ∀ {rest rest'}, TokensPlainer may rest rest' →
      Option.Rel (TokensPlainer may) (afterFor? n rest) (afterFor? n rest') := afterFor_alike ih
  obtain ⟨rest, rest', rfl, rfl, hrest⟩ | ⟨hasync, hasync'⟩ :=
    pair_cases (.keyword .async) (.keyword .for_) rfl rfl hts
  · exact hafter hrest
  obtain ⟨rest, rest', rfl, rfl, hrest⟩ | ⟨hfor, hfor'⟩ := head_cases (.keyword .for_) rfl hts
  · exact hafter hrest
  · rw [clauses?.eq_4 _ _ hasync hfor, clauses?.eq_4 _ _ hasync' hfor']
    exact .none

theorem filters_alike : Skips may (filters? (n + 1)) := by
  intro ts ts' hts
  obtain ⟨rest, rest', rfl, rfl, hrest⟩ | ⟨hif, hif'⟩ := head_cases (.keyword .if_) rfl hts
  · rw [filters?.eq_2, filters?.eq_2]
    refine rel_bind (ih.junction true hrest) ?_
    rintro ⟨_, left⟩ ⟨_, left'⟩ ⟨-, hleft⟩
    exact ih.filters hleft
  · rw [filters?.eq_3 _ _ hif, filters?.eq_3 _ _ hif']
    exact .some hts

theorem afterTarget_alike : Skips may (afterTarget? n) := by
  intro ts ts' hts
  obtain ⟨rest, rest', rfl, rfl, hrest⟩ | ⟨hcomma, hcomma'⟩ := head_cases (.sign .comma) rfl hts
  · obtain ⟨left, left', rfl, rfl, hleft⟩ | ⟨hin, hin'⟩ := head_cases (.keyword .in_) rfl hrest
    · exact .some hrest
    · rw [afterTarget?.eq_2 _ _ hin, afterTarget?.eq_2 _ _ hin']
      exact ih.targets hrest
  · rw [afterTarget?.eq_3 _ _ (fun _ => hcomma _) hcomma, afterTarget?.eq_3 _ _ (fun _ => hcomma' _) hcomma']
    exact .some hts

theorem target_alike : Skips may (target? n) := by
  intro ts ts' hts
  refine rel_bind (ih.primary hts) ?_
  rintro ⟨t, after⟩ ⟨t', after'⟩ ⟨ht, hafter⟩
  dsimp only at ht ⊢
  rw [ht.isTarget_eq]
  split
  · exact .none
  · exact afterTarget_alike ih hafter

theorem targets_alike : Skips may (targets? (n + 1)) := by
  intro ts ts' hts
  obtain ⟨rest, rest', rfl, rfl, hrest⟩ | ⟨htimes, htimes'⟩ := head_cases (.sign .times) rfl hts
  · exact target_alike ih hrest
  · rw [targets?.eq_3 _ _ htimes, targets?.eq_3 _ _ htimes']
    exact target_alike ih hts

/-! ### Atoms -/

theorem atom_alike : Reads may (Term.Plainer may) (atom? (n + 1)) (atom? (n + 1)) := by
  intro ts ts' hts
  cases hts with
  | nil => exact .none
  | @cons k l rest rest' hkl hrest =>
    by_cases hk : k.isText = true
    · rw [atom?_isText hk, atom?_isText (hkl.isText_eq.trans hk)]
      exact joined?_alike (.cons hkl hrest)
    · obtain rfl := hkl.eq_of_left (Bool.eq_false_iff.2 hk)
      cases l with
      | name s => exact .some ⟨.name s, hrest⟩
      | number c => exact .some ⟨.constant c, hrest⟩
      | keyword w => cases w <;> first | exact .some ⟨.constant _, hrest⟩ | exact .none
      | sign s =>
        cases s with
        | ellipsis => exact .some ⟨.constant _, hrest⟩
        | openRound => exact ih.round hrest
        | openSquare => exact ih.square hrest
        | openCurly => exact ih.curly hrest
        | _ => exact .none
      | lineEnd => exact .none
      | _ => exact (hk rfl).elim

theorem round_alike : Reads may (Term.Plainer may) (round? (n + 1)) (round? (n + 1)) := by
  intro ts ts' hts
  obtain ⟨rest, rest', rfl, rfl, hrest⟩ | ⟨hclose, hclose'⟩ := head_cases (.sign .closeRound) rfl hts
  · exact .some ⟨.tuple .nil, hrest⟩
  obtain ⟨rest, rest', rfl, rfl, hrest⟩ | ⟨hyield, hyield'⟩ := head_cases (.keyword .yield) rfl hts
  · obtain ⟨after, after', rfl, rfl, hafter⟩ | ⟨hfrom, hfrom'⟩ := head_cases (.keyword .from_) rfl hrest
    · rw [round?.eq_3, round?.eq_3]
      refine rel_bind (ih.expression hafter) ?_
      rintro ⟨_, left⟩ ⟨_, left'⟩ ⟨-, hleft⟩
      exact rel_bind (expect?_alike .closeRound hleft) fun _ _ hmore => .some ⟨.forbidden _, hmore⟩
    · rw [round?.eq_4 _ _ hfrom, round?.eq_4 _ _ hfrom']
      exact forbidden_alike _ (ih.elements .closeRound hrest)
  · rw [round?.eq_5 _ _ hclose (fun _ => hyield _) hyield, round?.eq_5 _ _ hclose' (fun _ => hyield' _) hyield']
    refine rel_bind (ih.element hts) ?_
    rintro ⟨t, after⟩ ⟨t', after'⟩ ⟨ht, hafter⟩
    dsimp only at ht hafter ⊢
    rw [startsClause_eq hafter, ht.isStarred_eq]
    split
    · split
      · exact .none
      · exact comprehension_alike ih .closeRound (.forbidden _) hafter
    obtain ⟨rest, rest', rfl, rfl, hrest⟩ | ⟨hcomma, hcomma'⟩ := head_cases (.sign .comma) rfl hafter
    · refine rel_bind (ih.elements .closeRound hrest) ?_
      rintro ⟨more, left⟩ ⟨more', left'⟩ ⟨hmore, hleft⟩
      exact .some ⟨.tuple (.cons ht hmore), hleft⟩
    · split
      · exact (hcomma _ rfl).elim
      · refine rel_bind (expect?_alike .closeRound hafter) fun left left' hleft => ?_
        split
        · exact .none
        · exact .some ⟨ht, hleft⟩

theorem square_alike : Reads may (Term.Plainer may) (square? (n + 1)) (square? (n + 1)) := by
  intro ts ts' hts
  obtain ⟨rest, rest', rfl, rfl, hrest⟩ | ⟨hclose, hclose'⟩ := head_cases (.sign .closeSquare) rfl hts
  · exact .some ⟨.list .nil, hrest⟩
  · rw [square?.eq_3 _ _ hclose, square?.eq_3 _ _ hclose']
    refine rel_bind (ih.element hts) ?_
    rintro ⟨t, after⟩ ⟨t', after'⟩ ⟨ht, hafter⟩
    dsimp only at ht hafter ⊢
    rw [startsClause_eq hafter, ht.isStarred_eq]
    split
    · split
      · exact .none
      · exact comprehension_alike ih .closeSquare (.forbidden _) hafter
    obtain ⟨rest, rest', rfl, rfl, hrest⟩ | ⟨hcomma, hcomma'⟩ := head_cases (.sign .comma) rfl hafter
    · refine rel_bind (ih.elements .closeSquare hrest) ?_
      rintro ⟨more, left⟩ ⟨more', left'⟩ ⟨hmore, hleft⟩
      exact .some ⟨.list (.cons ht hmore), hleft⟩
    · split
      · exact (hcomma _ rfl).elim
      · exact rel_bind (expect?_alike .closeSquare hafter) fun _ _ hleft => .some ⟨.list (.cons ht .nil), hleft⟩

theorem curly_alike : Reads may (Term.Plainer may) (curly? (n + 1)) (curly? (n + 1)) := by
  intro ts ts' hts
  obtain ⟨rest, rest', rfl, rfl, hrest⟩ | ⟨hclose, hclose'⟩ := head_cases (.sign .closeCurly) rfl hts
  · exact .some ⟨.forbidden _, hrest⟩
  obtain ⟨rest, rest', rfl, rfl, hrest⟩ | ⟨hpower, hpower'⟩ := head_cases (.sign .power) rfl hts
  · rw [curly?.eq_3, curly?.eq_3]
    refine rel_bind (ih.binary .bitOr hrest) ?_
    rintro ⟨_, after⟩ ⟨_, after'⟩ ⟨-, hafter⟩
    exact rel_bind (ih.moreEntries hafter) fun _ _ hleft => .some ⟨.forbidden _, hleft⟩
  rw [curly?.eq_4 _ _ hclose hpower, curly?.eq_4 _ _ hclose' hpower']
  refine rel_bind (ih.element hts) ?_
  rintro ⟨t, after⟩ ⟨t', after'⟩ ⟨ht, hafter⟩
  dsimp only at ht hafter ⊢
  obtain ⟨rest, rest', rfl, rfl, hrest⟩ | ⟨hcolon, hcolon'⟩ := head_cases (.sign .colon) rfl hafter
  · dsimp only
    rw [ht.isStarred_eq]
    split
    · exact .none
    · refine rel_bind (ih.expression hrest) ?_
      rintro ⟨_, left⟩ ⟨_, left'⟩ ⟨-, hleft⟩
      dsimp only at hleft ⊢
      rw [startsClause_eq hleft]
      split
      · exact comprehension_alike ih .closeCurly (.forbidden _) hleft
      · exact rel_bind (ih.moreEntries hleft) fun _ _ hmore => .some ⟨.forbidden _, hmore⟩
  obtain ⟨rest, rest', rfl, rfl, hrest⟩ | ⟨hcomma, hcomma'⟩ := head_cases (.sign .comma) rfl hafter
  · exact forbidden_alike _ (ih.elements .closeCurly hrest)
  · split
    · exact (hcolon _ rfl).elim
    · exact (hcomma _ rfl).elim
    · rw [startsClause_eq hafter, ht.isStarred_eq]
      split
      · split
        · exact .none
        · exact comprehension_alike ih .closeCurly (.forbidden _) hafter
      · exact rel_bind (expect?_alike .closeCurly hafter) fun _ _ hleft => .some ⟨.forbidden _, hleft⟩

theorem moreEntries_alike : Skips may (moreEntries? (n + 1)) := by
  intro ts ts' hts
  obtain ⟨rest, rest', rfl, rfl, hrest⟩ | ⟨hclose, hclose'⟩ := head_cases (.sign .closeCurly) rfl hts
  · exact .some hrest
  obtain ⟨rest, rest', rfl, rfl, hrest⟩ | ⟨hcomma, hcomma'⟩ := head_cases (.sign .comma) rfl hts
  · obtain ⟨after, after', rfl, rfl, hafter⟩ | ⟨hlast, hlast'⟩ := head_cases (.sign .closeCurly) rfl hrest
    · exact .some hafter
    obtain ⟨after, after', rfl, rfl, hafter⟩ | ⟨hpower, hpower'⟩ := head_cases (.sign .power) rfl hrest
    · rw [moreEntries?.eq_4, moreEntries?.eq_4]
      refine rel_bind (ih.binary .bitOr hafter) ?_
      rintro ⟨_, left⟩ ⟨_, left'⟩ ⟨-, hleft⟩
      exact ih.moreEntries hleft
    · rw [moreEntries?.eq_5 _ _ hlast hpower, moreEntries?.eq_5 _ _ hlast' hpower']
      refine rel_bind (ih.expression hrest) ?_
      rintro ⟨_, after⟩ ⟨_, after'⟩ ⟨-, hafter⟩
      refine rel_bind (expect?_alike .colon hafter) fun value value' hvalue => ?_
      refine rel_bind (ih.expression hvalue) ?_
      rintro ⟨_, left⟩ ⟨_, left'⟩ ⟨-, hleft⟩
      exact ih.moreEntries hleft
  · rw [moreEntries?.eq_6 _ _ hclose (fun _ => hcomma _) (fun _ => hcomma _) hcomma,
      moreEntries?.eq_6 _ _ hclose' (fun _ => hcomma' _) (fun _ => hcomma' _) hcomma']
    exact .none

omit ih

/-- **Reading does not depend on quotes**, whatever the number of steps. -/
theorem readsAlike (may : Bool) (n : Nat) : ReadsAlike may n := by
  induction n with
  | zero =>
    exact {
      expression _ := .none
      parameters _ _ _ _ := .none
      moreParameters _ _ _ _ := .none
      junction _ _ _ _ := .none
      junctionRest _ _ _ _ := .none
      inversion _ := .none
      comparisonRest _ := .none
      binary _ _ _ _ := .none
      binaryRest _ _ _ _ _ _ _ := .none
      factor _ := .none
      awaited _ := .none
      primary _ := .none
      trailers _ _ _ _ := .none
      arguments _ _ _ _ := .none
      moreArguments _ _ _ _ := .none
      slices _ := .none
      sliceRest _ := .none
      sliceBound _ := .none
      element _ := .none
      elements _ _ _ _ := .none
      clauses _ := .none
      filters _ := .none
      targets _ := .none
      atom _ := .none
      round _ := .none
      square _ := .none
      curly _ := .none
      moreEntries _ := .none }
  | succ n ih =>
    exact {
      expression := expression_alike ih
      parameters := parameters_alike ih
      moreParameters := moreParameters_alike ih
      junction := junction_alike ih
      junctionRest := junctionRest_alike ih
      inversion := inversion_alike ih
      comparisonRest := comparisonRest_alike ih
      binary := binary_alike ih
      binaryRest := binaryRest_alike ih
      factor := factor_alike ih
      awaited := awaited_alike ih
      primary := primary_alike ih
      trailers := trailers_alike ih
      arguments := arguments_alike ih
      moreArguments := moreArguments_alike ih
      slices := slices_alike ih
      sliceRest := sliceRest_alike ih
      sliceBound := sliceBound_alike ih
      element := element_alike ih
      elements := elements_alike ih
      clauses := clauses_alike ih
      filters := filters_alike ih
      targets := targets_alike ih
      atom := atom_alike ih
      round := round_alike ih
      square := square_alike ih
      curly := curly_alike ih
      moreEntries := moreEntries_alike ih }

end Condition
end Walkthrough
