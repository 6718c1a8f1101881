/-
# Headers are read back

A header may be written with any number of spaces around its names, equals signs, numbers, commas and brackets
(`SpacedBinding`, `headerText`). Spaces do not count, so each item is the name, the sign and the number
(`unspaced_text`), and none of these holds a comma or a closing bracket. So the header ends where it was closed,
whatever the expression behind it is made of, and the same bindings come back in the same order
(`split_headerText`).
-/

import Walkthrough.Proofs.Condition.Header

namespace Walkthrough
namespace Condition

open Text (isBlankChar isWordChar)

/-- So many spaces. -/
def spaces (n : Nat) : List Char := List.replicate n ' '

/-- A binding, and how many spaces are written around its name and its number. -/
structure SpacedBinding where
  name : String
  id : Int
  beforeName : Nat
  afterName : Nat
  beforeId : Nat
  afterId : Nat

namespace SpacedBinding

/-- The text of a binding. -/
def text (b : SpacedBinding) : List Char :=
  spaces b.beforeName ++ (b.name.toList ++ (spaces b.afterName ++
    '=' :: (spaces b.beforeId ++ ((toString b.id).toList ++ spaces b.afterId))))

/-- **A binding that may stand in a header**: its name is a name and not that of a function, and its number is
positive and not too long to be read. -/
structure Legal (b : SpacedBinding) : Prop where
  isName : IsName b.name.toList
  free : Builtin.ofName? b.name = none
  positive : 0 < b.id
  short : b.id.natAbs < 10 ^ Number.maxDigits

end SpacedBinding

/-- The text between the brackets of a header. -/
def headerText (inner : Nat) (items : List SpacedBinding) : List Char :=
  spaces inner ++ [','].intercalate (items.map SpacedBinding.text)

variable {b : SpacedBinding} {items : List SpacedBinding} {c : Char}

/-! ## Spaces do not count -/

@[simp] theorem unspaced_spaces (n : Nat) : unspaced (spaces n) = [] := by
  rw [unspaced, List.filter_eq_nil_iff]
  intro c hc
  rw [List.eq_of_mem_replicate hc]
  decide

theorem unspaced_intercalate (parts : List (List Char)) :
    unspaced ([','].intercalate parts) = [','].intercalate (parts.map unspaced) := by
  induction parts with
  | nil => rfl
  | cons part parts ih =>
    cases parts with
    | nil => simp
    | cons next parts =>
      rw [List.intercalate_cons_cons, unspaced_append, unspaced_append, ih]
      exact List.intercalate_cons_cons.symm

theorem isBlankChar_of_mem_spaces {n : Nat} (h : c ∈ spaces n) : isBlankChar c = true := by
  rw [List.eq_of_mem_replicate h]
  rfl

/-! ## The text of a binding -/

namespace SpacedBinding

/-- A binding without its spaces. -/
def plain (b : SpacedBinding) : List Char := b.name.toList ++ '=' :: (toString b.id).toList

theorem not_mem_toString {d : Char} (hdigit : d.isDigit = false) (hsign : d ≠ '-') (n : Int) :
    d ∉ (toString n).toList := by
  intro h
  rcases Number.mem_toString h with rfl | h
  · exact hsign rfl
  · rw [h] at hdigit
    cases hdigit

theorem toString_ne_nil (n : Int) : (toString n).toList ≠ [] := by
  rw [Number.toList_toString]
  exact List.append_ne_nil_of_right_ne_nil _ Nat.toDigits_ne_nil

theorem unspaced_text (h : b.Legal) : unspaced b.text = b.plain := by
  simp only [text, unspaced_append, unspaced_spaces, List.nil_append, List.append_nil,
    unspaced_cons (show '=' ≠ ' ' by decide)]
  rw [unspaced_of_not_mem (h.isName.not_mem rfl), unspaced_of_not_mem (not_mem_toString rfl (by decide) _), plain]

/-- What is neither in names and numbers nor a space or an equals sign is not in the text of a binding. -/
theorem not_mem_text {d : Char} (h : b.Legal) (hname : Text.isLatinNameChar d = false) (hdigit : d.isDigit = false)
    (hsign : d ∉ [' ', '=', '-']) : d ∉ b.text := by
  have hspaces : ∀ n, d ∉ spaces n := fun n hmem => hsign (by rw [List.eq_of_mem_replicate hmem]; decide)
  simp only [List.mem_cons, not_or] at hsign
  simp only [text, List.mem_append, List.mem_cons, not_or]
  exact ⟨hspaces _, h.isName.not_mem hname, hspaces _, hsign.2.1, hspaces _,
    not_mem_toString hdigit hsign.2.2.1 _, hspaces _⟩

theorem plain_ne_nil (b : SpacedBinding) : b.plain ≠ [] :=
  List.append_ne_nil_of_right_ne_nil _ (List.cons_ne_nil _ _)

theorem comma_not_mem_plain (h : b.Legal) : ',' ∉ b.plain := by
  rw [plain, List.mem_append, List.mem_cons, not_or, not_or]
  exact ⟨h.isName.not_mem rfl, by decide, not_mem_toString rfl (by decide) _⟩

/-- A binding is what its text states. -/
theorem binds_plain (h : b.Legal) : Binds (b.name, b.id) b.plain where
  isName := isBindingName_iff.2 (.inl h.isName)
  free := h.free
  positive := h.positive
  spelt := by
    refine ⟨(toString b.id).toList, rfl, not_mem_toString rfl (by decide) _, ?_⟩
    rw [String.ofList_toList]
    exact Number.readInt?_toString h.short

/-- A binding in a header starts with a word and a single equals sign. -/
theorem opensHeader_text (h : b.Legal) {blanks : List Char} (hblanks : ∀ c ∈ blanks, isBlankChar c = true)
    (rest : List Char) : OpensHeader ('(' :: (blanks ++ (b.text ++ rest))) := by
  have hspaces : ∀ c ∈ blanks ++ spaces b.beforeName, isBlankChar c = true :=
    List.forall_mem_append.2 ⟨hblanks, fun c => isBlankChar_of_mem_spaces⟩
  have hassigns : Assigns (spaces b.afterName ++
      '=' :: (spaces b.beforeId ++ ((toString b.id).toList ++ (spaces b.afterId ++ rest)))) := by
    refine ⟨_, _, rfl, fun c => isBlankChar_of_mem_spaces, fun hhead => ?_⟩
    -- A space or the first character of the number stands behind the sign.
    have hne : spaces b.beforeId ++ (toString b.id).toList ≠ [] :=
      List.append_ne_nil_of_right_ne_nil _ (toString_ne_nil b.id)
    rw [← List.append_assoc, List.head?_append_of_ne_nil _ hne] at hhead
    rcases List.mem_append.1 (List.mem_of_head? hhead) with hmem | hmem
    · exact absurd (List.eq_of_mem_replicate hmem) (by decide)
    · exact not_mem_toString rfl (by decide) _ hmem
  have hopens := OpensHeader.assigned hspaces h.isName.ne_nil (fun c hc => isWordChar_of_isLatinNameChar
    (h.isName.forall c hc)) hassigns
  simpa only [text, List.append_assoc, List.cons_append] using hopens

end SpacedBinding

/-! ## Headers -/

theorem unspaced_headerText (h : ∀ b ∈ items, b.Legal) (inner : Nat) :
    unspaced (headerText inner items) = [','].intercalate (items.map SpacedBinding.plain) := by
  rw [headerText, unspaced_append, unspaced_spaces, List.nil_append, unspaced_intercalate, List.map_map]
  exact congrArg _ (List.map_congr_left fun b hb => SpacedBinding.unspaced_text (h b hb))

/-- The items of a header, their spaces apart, are its bindings. -/
theorem headerItems_headerText (h : ∀ b ∈ items, b.Legal) (inner : Nat) :
    (headerItems (headerText inner items)).map unspaced = items.map SpacedBinding.plain := by
  rw [map_unspaced_headerItems, unspaced_headerText h]
  cases items with
  | nil => rfl
  | cons b items =>
    have hsplit : List.splitOn ',' ([','].intercalate ((b :: items).map SpacedBinding.plain)) =
        (b :: items).map SpacedBinding.plain := by
      refine List.splitOn_intercalate ',' (List.forall_mem_map.2 fun a ha => ?_) (List.cons_ne_nil _ _)
      exact SpacedBinding.comma_not_mem_plain (h a ha)
    have hne : [','].intercalate ((b :: items).map SpacedBinding.plain) ≠ [] := by
      intro hnil
      rw [hnil, List.splitOn_nil, List.map_cons] at hsplit
      exact SpacedBinding.plain_ne_nil b (List.cons.inj hsplit).1.symm
    rw [List.isEmpty_eq_false_iff.2 hne, if_neg Bool.false_ne_true, Text.splitOnChar_eq, hsplit]

theorem not_mem_intercalate {parts : List (List Char)} (hcomma : c ≠ ',') (h : ∀ part ∈ parts, c ∉ part) :
    c ∉ [','].intercalate parts := by
  induction parts with
  | nil => exact List.not_mem_nil
  | cons part parts ih =>
    rw [List.forall_mem_cons] at h
    cases parts with
    | nil =>
      rw [List.intercalate_singleton]
      exact h.1
    | cons next parts =>
      rw [List.intercalate_cons_cons, List.mem_append, List.mem_append, List.mem_singleton, not_or, not_or]
      exact ⟨⟨h.1, hcomma⟩, ih h.2⟩

/-- A header is not closed before its end. -/
theorem closing_not_mem_headerText (h : ∀ b ∈ items, b.Legal) (inner : Nat) : ')' ∉ headerText inner items := by
  rw [headerText, List.mem_append, not_or]
  refine ⟨fun hmem => absurd (List.eq_of_mem_replicate hmem) (by decide), ?_⟩
  exact not_mem_intercalate (by decide) (List.forall_mem_map.2 fun b hb =>
    SpacedBinding.not_mem_text (h b hb) rfl rfl (by decide))

/-- The text of a header starts one. -/
theorem opensHeader_headerText (h : ∀ b ∈ items, b.Legal) (inner : Nat) (rest : List Char) :
    OpensHeader ('(' :: (headerText inner items ++ ')' :: rest)) := by
  rw [headerText, List.append_assoc]
  cases items with
  | nil => exact .closed fun c => isBlankChar_of_mem_spaces
  | cons b items =>
    have hb := h b List.mem_cons_self
    cases items with
    | nil =>
      rw [List.map_singleton, List.intercalate_singleton]
      exact SpacedBinding.opensHeader_text hb (fun c => isBlankChar_of_mem_spaces) _
    | cons a items =>
      rw [List.map_cons, List.map_cons, List.intercalate_cons_cons, List.append_assoc, List.append_assoc]
      exact SpacedBinding.opensHeader_text hb (fun c => isBlankChar_of_mem_spaces) _

/-- **Headers are read back.** -/
theorem split_headerText :
    (∀ (items : List SpacedBinding) (body : List Char) (lead inner gap tail : Nat), (∀ b ∈ items, b.Legal) →
      (items.map SpacedBinding.name).Nodup → body ≠ [] → Text.trim body = body →
      ∃ headed, split (String.ofList (spaces lead ++ ('(' :: (headerText inner items ++
          ')' :: (spaces gap ++ body)) ++ spaces tail))) = .ok headed ∧
        headed.bindings.entries = items.map (fun b => (b.name, b.id)) ∧ headed.body = body) ∧
    ∀ text : String, ¬OpensHeader (Text.trim text.toList) →
      split text = .ok ⟨.empty, Text.trim text.toList⟩ := by
  refine ⟨fun items body lead inner gap tail hlegal hnames hbody htrim => ?_, fun text => split_of_not_opensHeader⟩
  have hspaces : ∀ n, ∀ c ∈ spaces n, isBlankChar c = true := fun n c => isBlankChar_of_mem_spaces
  have hstripped : Text.trim (spaces lead ++ ('(' :: (headerText inner items ++ ')' :: (spaces gap ++ body)) ++
      spaces tail)) = '(' :: (headerText inner items ++ ')' :: (spaces gap ++ body)) := by
    rw [Text.trim, Text.trimWith_surrounded (hspaces lead) (hspaces tail)]
    refine Text.trimWith_eq_self (fun c hc => by cases hc; rfl) fun c hc => ?_
    have hlast : ('(' :: (headerText inner items ++ ')' :: spaces gap) ++ body).getLast? = some c := by
      rw [← hc, List.cons_append, List.append_assoc]
      rfl
    rw [List.getLast?_append_of_ne_nil _ hbody, ← htrim] at hlast
    exact (Text.ends_trimWith isBlankChar body).2 c hlast
  have hkeys : (items.map fun b => (b.name, b.id)).map Prod.fst = items.map SpacedBinding.name := List.map_map
  refine ⟨⟨⟨items.map fun b => (b.name, b.id), hkeys ▸ hnames⟩, body⟩, ?_, rfl, rfl⟩
  have hopens := opensHeader_headerText hlegal inner (spaces gap ++ body)
  have htext : Text.trim (String.ofList (spaces lead ++ ('(' :: (headerText inner items ++
      ')' :: (spaces gap ++ body)) ++ spaces tail))).toList =
      '(' :: (headerText inner items ++ ')' :: (spaces gap ++ body)) := by
    rw [String.toList_ofList, hstripped]
  rw [split_eq_ok_iff (by rw [htext]; exact hopens)]
  refine ⟨hbody, _, _, htext, closing_not_mem_headerText hlegal inner, ?_, ?_⟩
  · exact (Text.trimWith_append_left (hspaces gap) body).trans htrim |>.symm
  · rw [headerItems_headerText hlegal, List.forall₂_map_left_iff, List.forall₂_map_right_iff, List.forall₂_same]
    exact fun b hb => SpacedBinding.binds_plain (hlegal b hb)

/-- A header with spaces everywhere, an expression with brackets, equals signs and commas of its own, and a
condition without a header. -/
theorem split_headerText_colour :
    let items : List SpacedBinding := [⟨"colour", 10, 0, 1, 2, 0⟩, ⟨"_n2", 4, 1, 0, 0, 3⟩]
    let body := "(_n2 == 1) or colour in (\"(a=1)\", ')')".toList
    (∀ b ∈ items, b.Legal) ∧ (items.map SpacedBinding.name).Nodup ∧ body ≠ [] ∧ Text.trim body = body ∧
      (∃ headed, split (String.ofList (spaces 1 ++ ('(' :: (headerText 2 items ++
          ')' :: (spaces 0 ++ body)) ++ spaces 3))) = .ok headed ∧
        headed.bindings.entries = [("colour", 10), ("_n2", 4)] ∧ headed.body = body) ∧
      ¬OpensHeader (Text.trim "(1 == 1) or False".toList) ∧
      split "(1 == 1) or False" = .ok ⟨.empty, Text.trim "(1 == 1) or False".toList⟩ := by
  intro items body
  have hlegal : ∀ b ∈ items, b.Legal := by
    refine List.forall_mem_cons.2 ⟨?_, List.forall_mem_singleton.2 ?_⟩
    · exact ⟨⟨'c', _, rfl, rfl, List.all_eq_true.1 rfl⟩, by decide, by decide, by decide +kernel⟩
    · exact ⟨⟨'_', _, rfl, rfl, List.all_eq_true.1 rfl⟩, by decide, by decide, by decide +kernel⟩
  have hnames : (items.map SpacedBinding.name).Nodup := by decide
  have hbody : body ≠ [] := by decide
  have htrim : Text.trim body = body := by decide
  have hopens : ¬OpensHeader (Text.trim "(1 == 1) or False".toList) := by
    rw [← startsHeader_iff]
    decide
  exact ⟨hlegal, hnames, hbody, htrim, split_headerText.1 items body 1 2 0 3 hlegal hnames hbody htrim, hopens,
    split_headerText.2 "(1 == 1) or False" hopens⟩

end Condition
end Walkthrough
