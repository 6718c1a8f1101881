/-
# What a condition may contain

A term is allowed if each of its parts is: a variable that is bound, a function, a constant, an allowed operation on
allowed terms, or a call of a function with arguments by position. `Term.Becomes` lists these forms together with
the formulas that they are, and they are just what checking accepts (`Term.check_eq_ok_iff`). So a text is compiled
exactly if it can be split and its expression, with plain quotes, is an allowed term (`compile_eq_ok_iff`).
-/

import Walkthrough.Condition.Predicate

namespace Walkthrough
namespace Condition

variable {names : List String} {t : Term} {f : Formula} {s : String} {b : Builtin} {isOr : Bool}

mutual

/-- **An allowed term**, and the formula that it is. -/
inductive Term.Becomes (names : List String) : Term → Formula → Prop
  | bound {s : String} (hs : s ∈ names) (hdebug : s ≠ debugName) : Term.Becomes names (.name s) (.name s)
  | debug (hs : debugName ∈ names) : Term.Becomes names (.name debugName) (.constant (.bool true))
  | builtin {s : String} {b : Builtin} (hs : s ∉ names) (hb : Builtin.ofName? s = some b) :
      Term.Becomes names (.name s) (.builtin b)
  | constant (c : Constant) : Term.Becomes names (.constant c) (.constant c)
  | binary {op : BinaryOp} {left right : Term} {f g : Formula} (hleft : left.Becomes names f)
      (hright : right.Becomes names g) : Term.Becomes names (.binary (.allowed op) left right) (.binary op f g)
  | unary {op : UnaryOp} {operand : Term} {f : Formula} (h : operand.Becomes names f) :
      Term.Becomes names (.unary (.allowed op) operand) (.unary op f)
  | junction {isOr : Bool} {operands : List Term} {fs : List Formula} (h : BecomeAll names operands fs) :
      Term.Becomes names (.junction isOr operands) (.junction isOr fs)
  | comparison {first : Term} {rest : List (CompareOp × Term)} {f : Formula} {chain : List (CompareOp × Formula)}
      (hfirst : first.Becomes names f) (hrest : BecomeChain names rest chain) :
      Term.Becomes names (.comparison first rest) (.comparison f chain)
  | conditional {test body orElse : Term} {f g h : Formula} (htest : test.Becomes names f)
      (hbody : body.Becomes names g) (horElse : orElse.Becomes names h) :
      Term.Becomes names (.conditional test body orElse) (.conditional f g h)
  | call {s : String} {b : Builtin} {arguments : List Term} {fs : List Formula} (hs : s ∉ names)
      (hb : Builtin.ofName? s = some b) (h : BecomeAll names arguments fs) :
      Term.Becomes names (.call (.name s) arguments false) (.call b fs)
  | callName {s : String} {b : Builtin} {arguments : List Term} {fs : List Formula} (hs : s ∈ names)
      (hb : Builtin.ofName? s = some b) (h : BecomeAll names arguments fs) :
      Term.Becomes names (.call (.name s) arguments false) (.callName s fs)
  | tuple {items : List Term} {fs : List Formula} (h : BecomeAll names items fs) :
      Term.Becomes names (.tuple items) (.tuple fs)
  | list {items : List Term} {fs : List Formula} (h : BecomeAll names items fs) :
      Term.Becomes names (.list items) (.list fs)

/-- Allowed terms one by one. -/
inductive BecomeAll (names : List String) : List Term → List Formula → Prop
  | nil : BecomeAll names [] []
  | cons {t : Term} {f : Formula} {ts : List Term} {fs : List Formula} (h : t.Becomes names f)
      (hrest : BecomeAll names ts fs) : BecomeAll names (t :: ts) (f :: fs)

/-- Allowed operands of a chain of comparisons. -/
inductive BecomeChain (names : List String) : List (CompareOp × Term) → List (CompareOp × Formula) → Prop
  | nil : BecomeChain names [] []
  | cons {op : CompareOp} {t : Term} {f : Formula} {ts : List (CompareOp × Term)}
      {fs : List (CompareOp × Formula)} (h : t.Becomes names f) (hrest : BecomeChain names ts fs) :
      BecomeChain names ((op, t) :: ts) ((op, f) :: fs)

end

theorem checkName_eq_ok_iff : checkName names s = .ok f ↔ (Term.name s).Becomes names f := by
  constructor
  · intro h
    unfold checkName at h
    split at h
    · next hmem =>
      replace hmem : s ∈ names := List.contains_iff_mem.1 hmem
      split at h
      · next hdebug =>
        obtain rfl : s = debugName := beq_iff_eq.1 hdebug
        cases h
        exact .debug hmem
      · next hdebug =>
        cases h
        exact .bound hmem (mt beq_iff_eq.2 hdebug)
    · next hmem =>
      split at h
      · next b hb =>
        cases h
        exact .builtin (mt List.contains_iff_mem.2 hmem) hb
      · cases h
  · rintro (@⟨_, hs, hdebug⟩ | hs | @⟨_, b, hs, hb⟩)
    · rw [checkName, if_pos (List.contains_iff_mem.2 hs), if_neg (mt beq_iff_eq.1 hdebug)]
    · rw [checkName, if_pos (List.contains_iff_mem.2 hs)]
      rfl
    · rw [checkName, if_neg (mt List.contains_iff_mem.1 hs), hb]

theorem Operator.check_eq_ok_iff {α : Type} {o : Operator α} {op : α} : o.check = .ok op ↔ o = .allowed op := by
  cases o with
  | allowed op' => exact ⟨fun h => by cases h; rfl, fun h => by cases h; rfl⟩
  | forbidden construct => exact ⟨(nomatch ·), (nomatch ·)⟩

theorem callee_eq_ok_iff : callee t = .ok (s, b) ↔ t = .name s ∧ Builtin.ofName? s = some b := by
  constructor
  · intro h
    unfold callee at h
    split at h
    · split at h
      · next hb =>
        cases h
        exact ⟨rfl, hb⟩
      · cases h
    · cases h
  · rintro ⟨rfl, hb⟩
    rw [callee, hb]

/-! ## Checking -/

mutual

theorem Term.becomes_of_check : ∀ {t : Term} {f : Formula}, t.check names = .ok f → t.Becomes names f
  | .name s, f, h => checkName_eq_ok_iff.1 h
  | .constant c, f, h => by
    cases h
    exact .constant c
  | .binary op left right, f, h => by
    rw [Term.check] at h
    obtain ⟨left', hleft, hafter⟩ := bind_eq_ok h
    obtain ⟨op', hop, hlast⟩ := bind_eq_ok hafter
    obtain ⟨right', hright, hformula⟩ := bind_eq_ok hlast
    obtain rfl := Operator.check_eq_ok_iff.1 hop
    cases hformula
    exact .binary (Term.becomes_of_check hleft) (Term.becomes_of_check hright)
  | .unary op operand, f, h => by
    rw [Term.check] at h
    obtain ⟨op', hop, hafter⟩ := bind_eq_ok h
    obtain ⟨operand', hoperand, hformula⟩ := bind_eq_ok hafter
    obtain rfl := Operator.check_eq_ok_iff.1 hop
    cases hformula
    exact .unary (Term.becomes_of_check hoperand)
  | .junction isOr operands, f, h => by
    rw [Term.check] at h
    obtain ⟨fs, hoperands, h⟩ := bind_eq_ok h
    cases h
    exact .junction (becomeAll_of_checkAll hoperands)
  | .comparison first rest, f, h => by
    rw [Term.check] at h
    obtain ⟨first', hfirst, h⟩ := bind_eq_ok h
    obtain ⟨chain, hrest, h⟩ := bind_eq_ok h
    cases h
    exact .comparison (Term.becomes_of_check hfirst) (becomeChain_of_checkComparisons hrest)
  | .conditional test body orElse, f, h => by
    rw [Term.check] at h
    obtain ⟨test', htest, h⟩ := bind_eq_ok h
    obtain ⟨body', hbody, h⟩ := bind_eq_ok h
    obtain ⟨orElse', horElse, h⟩ := bind_eq_ok h
    cases h
    exact .conditional (Term.becomes_of_check htest) (Term.becomes_of_check hbody) (Term.becomes_of_check horElse)
  | .call function arguments keywords, f, h => by
    rw [Term.check] at h
    obtain ⟨⟨s, b⟩, hcallee, hafter⟩ := bind_eq_ok h
    obtain ⟨rfl, hb⟩ := callee_eq_ok_iff.1 hcallee
    cases keywords with
    | true => cases hafter
    | false =>
      obtain ⟨fs, harguments, hformula⟩ := bind_eq_ok hafter
      have hall := becomeAll_of_checkAll harguments
      by_cases hmem : s ∈ names
      · rw [if_pos (List.contains_iff_mem.2 hmem)] at hformula
        cases hformula
        exact .callName hmem hb hall
      · rw [if_neg (mt List.contains_iff_mem.1 hmem)] at hformula
        cases hformula
        exact .call hmem hb hall
  | .tuple items, f, h => by
    rw [Term.check] at h
    obtain ⟨fs, hitems, h⟩ := bind_eq_ok h
    cases h
    exact .tuple (becomeAll_of_checkAll hitems)
  | .list items, f, h => by
    rw [Term.check] at h
    obtain ⟨fs, hitems, h⟩ := bind_eq_ok h
    cases h
    exact .list (becomeAll_of_checkAll hitems)
  | .forbidden construct, f, h => nomatch h

theorem becomeAll_of_checkAll : ∀ {ts : List Term} {fs : List Formula},
    checkAll names ts = .ok fs → BecomeAll names ts fs
  | [], fs, h => by
    cases h
    exact .nil
  | t :: ts, fs, h => by
    obtain ⟨f, ht, h⟩ := bind_eq_ok h
    obtain ⟨rest, hts, h⟩ := bind_eq_ok h
    cases h
    exact .cons (Term.becomes_of_check ht) (becomeAll_of_checkAll hts)

theorem becomeChain_of_checkComparisons : ∀ {ts : List (CompareOp × Term)} {fs : List (CompareOp × Formula)},
    checkComparisons names ts = .ok fs → BecomeChain names ts fs
  | [], fs, h => by
    cases h
    exact .nil
  | (op, t) :: ts, fs, h => by
    obtain ⟨f, ht, h⟩ := bind_eq_ok h
    obtain ⟨rest, hts, h⟩ := bind_eq_ok h
    cases h
    exact .cons (Term.becomes_of_check ht) (becomeChain_of_checkComparisons hts)

end

mutual

theorem Term.Becomes.check_eq : ∀ {t : Term} {f : Formula}, t.Becomes names f → t.check names = .ok f
  | _, _, .bound hs hdebug => checkName_eq_ok_iff.2 (.bound hs hdebug)
  | _, _, .debug hs => checkName_eq_ok_iff.2 (.debug hs)
  | _, _, .builtin hs hb => checkName_eq_ok_iff.2 (.builtin hs hb)
  | _, _, .constant c => rfl
  | _, _, .binary hleft hright => by
    rw [Term.check, hleft.check_eq, hright.check_eq]
    rfl
  | _, _, .unary h => by
    rw [Term.check, h.check_eq]
    rfl
  | _, _, .junction h => by
    rw [Term.check, h.check_eq]
    rfl
  | _, _, .comparison hfirst hrest => by
    rw [Term.check, hfirst.check_eq, hrest.check_eq]
    rfl
  | _, _, .conditional htest hbody horElse => by
    rw [Term.check, htest.check_eq, hbody.check_eq, horElse.check_eq]
    rfl
  | _, _, .call hs hb h => by
    rw [Term.check, callee_eq_ok_iff.2 ⟨rfl, hb⟩, h.check_eq]
    exact congrArg Except.ok (if_neg (mt List.contains_iff_mem.1 hs))
  | _, _, .callName hs hb h => by
    rw [Term.check, callee_eq_ok_iff.2 ⟨rfl, hb⟩, h.check_eq]
    exact congrArg Except.ok (if_pos (List.contains_iff_mem.2 hs))
  | _, _, .tuple h => by
    rw [Term.check, h.check_eq]
    rfl
  | _, _, .list h => by
    rw [Term.check, h.check_eq]
    rfl

theorem BecomeAll.check_eq : ∀ {ts : List Term} {fs : List Formula},
    BecomeAll names ts fs → checkAll names ts = .ok fs
  | _, _, .nil => rfl
  | _, _, .cons h hrest => by
    rw [checkAll, h.check_eq, hrest.check_eq]
    rfl

theorem BecomeChain.check_eq : ∀ {ts : List (CompareOp × Term)} {fs : List (CompareOp × Formula)},
    BecomeChain names ts fs → checkComparisons names ts = .ok fs
  | _, _, .nil => rfl
  | _, _, .cons h hrest => by
    rw [checkComparisons, h.check_eq, hrest.check_eq]
    rfl

end

/-- **Checking accepts the allowed terms**, and no others. -/
theorem Term.check_eq_ok_iff : t.check names = .ok f ↔ t.Becomes names f :=
  ⟨Term.becomes_of_check, Term.Becomes.check_eq⟩

end Condition

namespace Predicate

open Condition

variable {text : String} {p : Predicate}

theorem formulaOf_eq_ok_iff {names : List String} {body : List Char} {f : Formula} :
    formulaOf names body = .ok f ↔ ∃ t, Term.ofText? (plainQuotes body) = some t ∧ t.Becomes names f := by
  unfold formulaOf
  split
  · next hnone =>
    refine ⟨(nomatch ·), ?_⟩
    rintro ⟨t, hsome, -⟩
    rw [hnone] at hsome
    cases hsome
  · next t hsome =>
    rw [Term.check_eq_ok_iff]
    refine ⟨fun h => ⟨t, hsome, h⟩, ?_⟩
    rintro ⟨u, hu, h⟩
    cases hsome.symm.trans hu
    exact h

/-- What it takes to compile a text where bindings may be given. -/
theorem compile_given_eq_ok_iff {given : Option (OrderedMap String Int)} : compile text given = .ok p ↔
    canLog given = true ∧ ∃ headed t f, split text = .ok headed ∧ '\x00' ∉ headed.body ∧
      Term.ofText? (plainQuotes headed.body) = some t ∧ t.Becomes (given.getD headed.bindings).keys f ∧
      p = ⟨text, given.getD headed.bindings, f⟩ := by
  unfold compile
  constructor
  · intro h
    dsimp only at h
    split at h
    · cases h
    · next headed hsplit =>
      split at h
      · cases h
      · next hnull =>
        split at h
        · cases h
        · next f hf =>
          split at h
          · next hlog =>
            cases h
            obtain ⟨t, ht, hbecomes⟩ := formulaOf_eq_ok_iff.1 hf
            exact ⟨hlog, headed, t, f, hsplit, mt List.contains_iff_mem.2 hnull, ht, hbecomes, rfl⟩
          · cases h
  · rintro ⟨hlog, headed, t, f, hsplit, hnull, ht, hbecomes, rfl⟩
    have hf : formulaOf (given.getD headed.bindings).keys headed.body = .ok f :=
      formulaOf_eq_ok_iff.2 ⟨t, ht, hbecomes⟩
    dsimp only
    rw [hsplit]
    dsimp only
    rw [if_neg (mt List.contains_iff_mem.1 hnull), hf]
    exact if_pos hlog

/-- **What it takes to compile a text.** -/
theorem compile_eq_ok_iff : compile text none = .ok p ↔ ∃ headed t f, split text = .ok headed ∧
    '\x00' ∉ headed.body ∧ Term.ofText? (plainQuotes headed.body) = some t ∧
    t.Becomes headed.bindings.keys f ∧ p = ⟨text, headed.bindings, f⟩ :=
  compile_given_eq_ok_iff.trans (and_iff_right rfl)

end Predicate
end Walkthrough
