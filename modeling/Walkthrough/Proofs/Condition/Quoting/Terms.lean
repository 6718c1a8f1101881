/-
# Terms and plain quotes

Terms that differ in the quotes of their texts alone (`Term.Plainer`) are allowed or not together: what a condition may
contain does not depend on its texts (`Term.Plainer.becomes`).
-/

import Walkthrough.Proofs.Condition.Allowed
import Walkthrough.Proofs.Condition.Quoting.Tokens

namespace Walkthrough
namespace Condition

variable {names : List String} {may : Bool} {t t' : Term} {ts ts' : List Token}

mutual

/-- **The same term but for quotes** in its texts. -/
inductive Term.Plainer (may : Bool) : Term → Term → Prop
  | name (s : String) : Term.Plainer may (.name s) (.name s)
  | constant (c : Constant) : Term.Plainer may (.constant c) (.constant c)
  | text {s s' : String} (h : List.Forall₂ (PlainFor may) s.toList s'.toList) :
      Term.Plainer may (.constant (.text s)) (.constant (.text s'))
  | binary {op : Operator BinaryOp} {left right left' right' : Term} (hleft : left.Plainer may left')
      (hright : right.Plainer may right') : Term.Plainer may (.binary op left right) (.binary op left' right')
  | unary {op : Operator UnaryOp} {operand operand' : Term} (h : operand.Plainer may operand') :
      Term.Plainer may (.unary op operand) (.unary op operand')
  | junction {isOr : Bool} {operands operands' : List Term} (h : AllPlainer may operands operands') :
      Term.Plainer may (.junction isOr operands) (.junction isOr operands')
  | comparison {first first' : Term} {rest rest' : List (CompareOp × Term)} (hfirst : first.Plainer may first')
      (hrest : ChainPlainer may rest rest') : Term.Plainer may (.comparison first rest) (.comparison first' rest')
  | conditional {test body orElse test' body' orElse' : Term} (htest : test.Plainer may test')
      (hbody : body.Plainer may body') (horElse : orElse.Plainer may orElse') :
      Term.Plainer may (.conditional test body orElse) (.conditional test' body' orElse')
  | call {function function' : Term} {arguments arguments' : List Term} {keywords : Bool}
      (hfunction : function.Plainer may function') (harguments : AllPlainer may arguments arguments') :
      Term.Plainer may (.call function arguments keywords) (.call function' arguments' keywords)
  | tuple {items items' : List Term} (h : AllPlainer may items items') : Term.Plainer may (.tuple items) (.tuple items')
  | list {items items' : List Term} (h : AllPlainer may items items') : Term.Plainer may (.list items) (.list items')
  | forbidden (construct : Construct) : Term.Plainer may (.forbidden construct) (.forbidden construct)

/-- The same terms but for quotes. -/
inductive AllPlainer (may : Bool) : List Term → List Term → Prop
  | nil : AllPlainer may [] []
  | cons {t t' : Term} {ts ts' : List Term} (h : t.Plainer may t') (hrest : AllPlainer may ts ts') :
      AllPlainer may (t :: ts) (t' :: ts')

/-- The same comparisons but for quotes. -/
inductive ChainPlainer (may : Bool) : List (CompareOp × Term) → List (CompareOp × Term) → Prop
  | nil : ChainPlainer may [] []
  | cons {op : CompareOp} {t t' : Term} {ts ts' : List (CompareOp × Term)} (h : t.Plainer may t')
      (hrest : ChainPlainer may ts ts') : ChainPlainer may ((op, t) :: ts) ((op, t') :: ts')

end

/-! ## What does not depend on quotes -/

theorem AllPlainer.isEmpty_eq {ts ts' : List Term} (h : AllPlainer may ts ts') : ts'.isEmpty = ts.isEmpty := by
  cases h <;> rfl

theorem ChainPlainer.isEmpty_eq {ts ts' : List (CompareOp × Term)} (h : ChainPlainer may ts ts') :
    ts'.isEmpty = ts.isEmpty := by
  cases h <;> rfl

theorem Term.Plainer.isStarred_eq (h : t.Plainer may t') : t'.isStarred = t.isStarred := by
  cases h <;> rfl

mutual

theorem Term.Plainer.isTarget_eq : ∀ {t t' : Term}, t.Plainer may t' → t'.isTarget = t.isTarget
  | _, _, .name s => rfl
  | _, _, .constant c => rfl
  | _, _, .text _ => rfl
  | _, _, .binary _ _ => rfl
  | _, _, .unary _ => rfl
  | _, _, .junction _ => rfl
  | _, _, .comparison _ _ => rfl
  | _, _, .conditional _ _ _ => rfl
  | _, _, .call _ _ => rfl
  | _, _, .tuple h => h.areTargets_eq
  | _, _, .list h => h.areTargets_eq
  | _, _, .forbidden construct => rfl

theorem AllPlainer.areTargets_eq : ∀ {ts ts' : List Term}, AllPlainer may ts ts' → areTargets ts' = areTargets ts
  | _, _, .nil => rfl
  | _, _, .cons h hrest => congrArg₂ and h.isTarget_eq hrest.areTargets_eq

end

mutual

/-- **A term is allowed** if the same is but for quotes. -/
theorem Term.Plainer.becomes : ∀ {t t' : Term} {f : Formula}, t.Plainer may t' → t.Becomes names f →
    ∃ g, t'.Becomes names g
  | _, _, f, .name s, hf => ⟨f, hf⟩
  | _, _, f, .constant c, hf => ⟨f, hf⟩
  | _, _, _, .text _, _ => ⟨_, .constant _⟩
  | _, _, _, .binary hleft hright, hf => by
    cases hf with
    | binary hfleft hfright =>
      obtain ⟨_, hgleft⟩ := hleft.becomes hfleft
      obtain ⟨_, hgright⟩ := hright.becomes hfright
      exact ⟨_, .binary hgleft hgright⟩
  | _, _, _, .unary h, hf => by
    cases hf with
    | unary hf =>
      obtain ⟨_, hg⟩ := h.becomes hf
      exact ⟨_, .unary hg⟩
  | _, _, _, .junction h, hf => by
    cases hf with
    | junction hfs =>
      obtain ⟨_, hgs⟩ := h.becomeAll hfs
      exact ⟨_, .junction hgs⟩
  | _, _, _, .comparison hfirst hrest, hf => by
    cases hf with
    | comparison hffirst hfrest =>
      obtain ⟨_, hgfirst⟩ := hfirst.becomes hffirst
      obtain ⟨_, hgrest⟩ := hrest.becomeChain hfrest
      exact ⟨_, .comparison hgfirst hgrest⟩
  | _, _, _, .conditional htest hbody horElse, hf => by
    cases hf with
    | conditional hftest hfbody hforElse =>
      obtain ⟨_, hgtest⟩ := htest.becomes hftest
      obtain ⟨_, hgbody⟩ := hbody.becomes hfbody
      obtain ⟨_, hgorElse⟩ := horElse.becomes hforElse
      exact ⟨_, .conditional hgtest hgbody hgorElse⟩
  | _, _, _, .call hfunction harguments, hf => by
    cases hf with
    | call hs hb hfs =>
      obtain ⟨_, hgs⟩ := harguments.becomeAll hfs
      cases hfunction
      exact ⟨_, .call hs hb hgs⟩
    | callName hs hb hfs =>
      obtain ⟨_, hgs⟩ := harguments.becomeAll hfs
      cases hfunction
      exact ⟨_, .callName hs hb hgs⟩
  | _, _, _, .tuple h, hf => by
    cases hf with
    | tuple hfs =>
      obtain ⟨_, hgs⟩ := h.becomeAll hfs
      exact ⟨_, .tuple hgs⟩
  | _, _, _, .list h, hf => by
    cases hf with
    | list hfs =>
      obtain ⟨_, hgs⟩ := h.becomeAll hfs
      exact ⟨_, .list hgs⟩

theorem AllPlainer.becomeAll : ∀ {ts ts' : List Term} {fs : List Formula}, AllPlainer may ts ts' →
    BecomeAll names ts fs → ∃ gs, BecomeAll names ts' gs
  | _, _, _, .nil, _ => ⟨[], .nil⟩
  | _, _, _, .cons h hrest, hfs => by
    cases hfs with
    | cons hf hfs =>
      obtain ⟨_, hg⟩ := h.becomes hf
      obtain ⟨_, hgs⟩ := hrest.becomeAll hfs
      exact ⟨_, .cons hg hgs⟩

theorem ChainPlainer.becomeChain : ∀ {ts ts' : List (CompareOp × Term)} {fs : List (CompareOp × Formula)},
    ChainPlainer may ts ts' → BecomeChain names ts fs → ∃ gs, BecomeChain names ts' gs
  | _, _, _, .nil, _ => ⟨[], .nil⟩
  | _, _, _, .cons h hrest, hfs => by
    cases hfs with
    | cons hf hfs =>
      obtain ⟨_, hg⟩ := h.becomes hf
      obtain ⟨_, hgs⟩ := hrest.becomeChain hfs
      exact ⟨_, .cons hg hgs⟩

end

/-- Texts without typographic quotes are the same. -/
theorem eq_of_forall₂_plainFor {s s' : String} (h : List.Forall₂ (PlainFor false) s.toList s'.toList) : s' = s := by
  have heq : List.Forall₂ (· = ·) s.toList s'.toList := h.imp fun c d hcd => by
    rcases hcd with rfl | ⟨hmay, -⟩
    · rfl
    · cases hmay
  rw [List.forall₂_eq_eq_eq] at heq
  exact (String.toList_inj.1 heq).symm

mutual

/-- **Without typographic quotes** in its texts, a term is the same. -/
theorem Term.Plainer.eq_of_none : ∀ {t t' : Term}, t.Plainer false t' → t' = t
  | _, _, .name s => rfl
  | _, _, .constant c => rfl
  | _, _, .text h => congrArg (fun s => Term.constant (.text s)) (eq_of_forall₂_plainFor h)
  | _, _, .binary hleft hright => congrArg₂ (Term.binary _) hleft.eq_of_none hright.eq_of_none
  | _, _, .unary h => congrArg (Term.unary _) h.eq_of_none
  | _, _, .junction h => congrArg (Term.junction _) h.eq_of_none
  | _, _, .comparison hfirst hrest => congrArg₂ Term.comparison hfirst.eq_of_none hrest.eq_of_none
  | _, _, .conditional htest hbody horElse => by
    rw [htest.eq_of_none, hbody.eq_of_none, horElse.eq_of_none]
  | _, _, .call hfunction harguments =>
    congrArg₂ (Term.call · · _) hfunction.eq_of_none harguments.eq_of_none
  | _, _, .tuple h => congrArg Term.tuple h.eq_of_none
  | _, _, .list h => congrArg Term.list h.eq_of_none
  | _, _, .forbidden construct => rfl

theorem AllPlainer.eq_of_none : ∀ {ts ts' : List Term}, AllPlainer false ts ts' → ts' = ts
  | _, _, .nil => rfl
  | _, _, .cons h hrest => congrArg₂ List.cons h.eq_of_none hrest.eq_of_none

theorem ChainPlainer.eq_of_none : ∀ {ts ts' : List (CompareOp × Term)}, ChainPlainer false ts ts' → ts' = ts
  | _, _, .nil => rfl
  | _, _, .cons h hrest => congrArg₂ (fun t ts => (_, t) :: ts) h.eq_of_none hrest.eq_of_none

end

end Condition
end Walkthrough
