/-
# JSON documents are read back

A value that JSON can hold (`Readable`) is written, and read back from its text
(`Readable.read?_write`). The text of a value stands for it wherever it is read (`Reads`): in front of the
comma, the line feed or the end that follows it, and with any fuel that is not less than its length. What
is read in a block is a list of such texts, one on each line (`items?_joined`, `members?_joined`).
-/

import Mathlib.Data.List.Forall2
import Walkthrough.Proofs.Json.Scalar
import Walkthrough.Proofs.OrderedMap

namespace Walkthrough
namespace Json

variable {fuel depth level : Nat} {rest : List Char} {s : String} {v : Value}

/-! ## Blanks -/

theorem skip_of_head? (h : ∀ c, rest.head? = some c → isSpace c = false) : skip rest = rest :=
  Text.dropWhile_eq_self h

theorem skip_cons {c : Char} (h : isSpace c = false) (cs : List Char) : skip (c :: cs) = c :: cs :=
  skip_of_head? fun d hd => by obtain rfl := Option.some.inj hd; exact h

theorem toList_newLine (level : Nat) : (newLine level).toList = '\n' :: List.replicate (4 * level) ' ' := by
  rw [newLine, String.toList_append, Number.toList_pushn]
  rfl

/-- A new line is skipped. -/
theorem skip_newLine (h : ∀ c, rest.head? = some c → isSpace c = false) :
    skip ((newLine level).toList ++ rest) = rest := by
  have hblank : ∀ c ∈ (newLine level).toList, isSpace c = true := by
    intro c hc
    rw [toList_newLine] at hc
    rcases List.mem_cons.1 hc with rfl | hc
    · rfl
    · rw [List.eq_of_mem_replicate hc]
      rfl
  rw [skip, List.dropWhile_append_of_pos hblank]
  exact skip_of_head? h

theorem skip_newLine_cons {c : Char} (h : isSpace c = false) (cs : List Char) :
    skip ((newLine level).toList ++ c :: cs) = c :: cs :=
  skip_newLine fun d hd => by obtain rfl := Option.some.inj hd; exact h

theorem endsNumber_newLine (level : Nat) (rest : List Char) :
    EndsNumber ((newLine level).toList ++ rest) := by
  rw [toList_newLine]
  exact .cons (by decide) _

theorem endsNumber_comma (rest : List Char) : EndsNumber (',' :: rest) := .cons (by decide) rest

/-! ## Texts that stand for values -/

/-- **A text stands for a value**: the value is read from it, whatever follows that does not go on with a
number. -/
structure Reads (depth : Nat) (s : String) (v : Value) : Prop where
  eq : ∀ {fuel : Nat} {rest : List Char}, s.toList.length ≤ fuel → EndsNumber rest →
    value? fuel depth (s.toList ++ rest) = some (v, rest)

/-- A value begins with a character that is neither a blank nor a closing bracket. -/
theorem head_of_value? {cs : List Char} (h : value? fuel depth cs = some (v, rest)) :
    ∃ c ds, cs = c :: ds ∧ isSpace c = false ∧ c ≠ ']' := by
  unfold value? at h
  split at h
  case h_1 => cases h
  case h_12 =>
    obtain ⟨c, ds, rfl, hc⟩ := exists_cons_of_number? h
    refine ⟨c, ds, rfl, ?_, Text.ne_of_isDigit hc rfl⟩
    simp only [isSpace, Bool.or_eq_false_iff, beq_eq_false_iff_ne]
    exact ⟨⟨⟨Text.ne_of_isDigit hc rfl, Text.ne_of_isDigit hc rfl⟩, Text.ne_of_isDigit hc rfl⟩,
      Text.ne_of_isDigit hc rfl⟩
  all_goals exact ⟨_, _, rfl, rfl, by decide⟩

namespace Reads

theorem head (h : Reads depth s v) :
    ∃ c ds, s.toList = c :: ds ∧ isSpace c = false ∧ c ≠ ']' := by
  have hread := h.eq (Nat.le_refl _) .nil
  rw [List.append_nil] at hread
  exact head_of_value? hread

theorem head?_append (h : Reads depth s v) (rest : List Char) (c : Char)
    (hc : (s.toList ++ rest).head? = some c) : isSpace c = false ∧ c ≠ ']' := by
  obtain ⟨d, ds, hs, hd⟩ := h.head
  rw [hs] at hc
  obtain rfl : d = c := Option.some.inj hc
  exact hd

/-- A text that is no block stands for a value as soon as it is read with some fuel. -/
theorem of_succ (hne : s.toList ≠ [])
    (h : ∀ (fuel : Nat) {rest : List Char}, EndsNumber rest →
      value? (fuel + 1) depth (s.toList ++ rest) = some (v, rest)) : Reads depth s v := by
  refine ⟨fun {fuel rest} hfuel hrest => ?_⟩
  have hpos := List.length_pos_iff.2 hne
  obtain ⟨fuel, rfl⟩ : ∃ k, fuel = k + 1 := ⟨fuel - 1, by omega⟩
  exact h fuel hrest

theorem quoted (s : String) : Reads depth (quoted s) (.text s) := by
  refine of_succ (by rw [toList_quoted]; exact List.cons_ne_nil _ _) fun fuel rest _ => ?_
  rw [toList_quoted, List.cons_append, List.append_assoc, List.singleton_append, value?, text?_quoted]
  rfl

theorem toString {n : Int} (short : Value.isShort n = true) : Reads depth (toString n) (.int n) := by
  refine of_succ (fun h => ?_) fun fuel rest hrest => value?_toString (of_decide_eq_true short) hrest
  rw [Number.toList_toString] at h
  exact Nat.toDigits_ne_nil (List.append_eq_nil_iff.1 h).2

theorem floatText {x : Float} (exact_text : IsExact x) : Reads depth (floatText x) (.float x) := by
  refine of_succ (fun h => ?_) fun fuel rest hrest => value?_append_of_float exact_text hrest
  unfold IsExact at exact_text
  rw [h] at exact_text
  obtain ⟨c, ds, heq, -⟩ := head_of_value? exact_text
  cases heq

end Reads

/-! ## Blocks -/

/-- What stands between two parts of a block. -/
def between (level : Nat) : String := "," ++ newLine (level + 1)

theorem toList_between (level : Nat) : (between level).toList = ',' :: (newLine (level + 1)).toList := by
  rw [between, String.toList_append]
  rfl

theorem toList_joined_cons (sep part : String) {parts : List String} (h : parts ≠ []) :
    (Text.joined sep (part :: parts)).toList =
      part.toList ++ (sep.toList ++ (Text.joined sep parts).toList) := by
  rw [Text.joined, String.toList_append, String.toList_append, List.append_assoc]
  exact h

theorem toList_block {opening closing : String} {parts : List String} (h : parts ≠ []) :
    (block opening closing level parts).toList =
      opening.toList ++ ((newLine (level + 1)).toList ++ ((Text.joined (between level) parts).toList ++
        ((newLine level).toList ++ closing.toList))) := by
  have hne : ¬parts.isEmpty = true := by simpa using h
  unfold block
  rw [if_neg hne]
  simp only [String.toList_append, List.append_assoc]
  rfl

/-- Joined parts begin as the first of them does. -/
theorem head?_joined {sep part : String} {parts : List String} {P : Char → Prop}
    (h : ∀ rest c, (part.toList ++ rest).head? = some c → P c) (rest : List Char) (c : Char)
    (hc : ((Text.joined sep (part :: parts)).toList ++ rest).head? = some c) : P c := by
  by_cases hlast : parts = []
  · subst hlast
    exact h rest c hc
  · rw [toList_joined_cons _ _ hlast, List.append_assoc] at hc
    exact h _ c hc

theorem head?_joined_reads {parts : List String} {values : List Value} {sep : String}
    (h : List.Forall₂ (Reads depth) parts values) (hne : parts ≠ []) (rest : List Char) (c : Char)
    (hc : ((Text.joined sep parts).toList ++ rest).head? = some c) : isSpace c = false ∧ c ≠ ']' := by
  cases h with
  | nil => exact absurd rfl hne
  | cons hpart _ => exact head?_joined hpart.head?_append rest c hc

/-- **The items of an array** are read one after the other. -/
theorem items?_joined {parts : List String} {values : List Value}
    (h : List.Forall₂ (Reads depth) parts values) (hne : parts ≠ [])
    (hfuel : (Text.joined (between level) parts).toList.length + (newLine level).toList.length < fuel) :
    items? fuel depth ((Text.joined (between level) parts).toList ++
      ((newLine level).toList ++ ']' :: rest)) = some (values, rest) := by
  induction h generalizing fuel with
  | nil => exact absurd rfl hne
  | @cons part v parts values hpart hparts ih =>
    obtain ⟨fuel, rfl⟩ : ∃ k, fuel = k + 1 := ⟨fuel - 1, by omega⟩
    by_cases hlast : parts = []
    · subst hlast
      cases hparts
      rw [Text.joined] at hfuel ⊢
      rw [items?, hpart.eq (by omega) (endsNumber_newLine _ _)]
      simp only [Option.bind_eq_bind, Option.bind_some, skip_newLine_cons (show isSpace ']' = false from rfl)]
    · rw [toList_joined_cons _ _ hlast] at hfuel ⊢
      simp only [List.length_append, toList_between, List.length_cons] at hfuel
      simp only [toList_between, List.append_assoc, List.cons_append]
      rw [items?, hpart.eq (by omega) (endsNumber_comma _)]
      simp only [Option.bind_eq_bind, Option.bind_some, skip_cons (show isSpace ',' = false from rfl)]
      rw [skip_newLine fun c hc => (head?_joined_reads hparts hlast _ c hc).1, ih hlast (by omega)]
      rfl

/-- A text that stands for a member of an object: its name in quotes, a colon and its value. -/
def ReadsMember (depth : Nat) (part : String) (m : String × Value) : Prop :=
  ∃ s, part = Json.quoted m.1 ++ ": " ++ s ∧ Reads depth s m.2

theorem ReadsMember.toList {part : String} {m : String × Value} (h : ReadsMember depth part m) :
    ∃ s, Reads depth s m.2 ∧
      part.toList = '"' :: (m.1.toList.flatMap quoteChar ++ '"' :: ':' :: ' ' :: s.toList) := by
  obtain ⟨s, rfl, hs⟩ := h
  have hcolon : ": ".toList = [':', ' '] := rfl
  refine ⟨s, hs, ?_⟩
  simp only [String.toList_append, toList_quoted, hcolon, List.append_assoc, List.cons_append,
    List.nil_append]

theorem ReadsMember.head?_append {part : String} {m : String × Value} (h : ReadsMember depth part m)
    (rest : List Char) (c : Char) (hc : (part.toList ++ rest).head? = some c) : c = '"' := by
  obtain ⟨s, -, hpart⟩ := h.toList
  rw [hpart] at hc
  exact (Option.some.inj hc).symm

theorem head?_joined_members {parts : List String} {members : List (String × Value)} {sep : String}
    (h : List.Forall₂ (ReadsMember depth) parts members) (hne : parts ≠ []) (rest : List Char) (c : Char)
    (hc : ((Text.joined sep parts).toList ++ rest).head? = some c) : c = '"' := by
  cases h with
  | nil => exact absurd rfl hne
  | cons hpart _ => exact head?_joined hpart.head?_append rest c hc

/-- **The members of an object** are read one after the other. -/
theorem members?_joined {parts : List String} {members : List (String × Value)}
    (h : List.Forall₂ (ReadsMember depth) parts members) (hne : parts ≠ [])
    (hfuel : (Text.joined (between level) parts).toList.length + (newLine level).toList.length < fuel) :
    members? fuel depth ((Text.joined (between level) parts).toList ++
      ((newLine level).toList ++ '\x7d' :: rest)) = some (members, rest) := by
  induction h generalizing fuel with
  | nil => exact absurd rfl hne
  | @cons part m parts members hpart hparts ih =>
    obtain ⟨fuel, rfl⟩ : ∃ k, fuel = k + 1 := ⟨fuel - 1, by omega⟩
    obtain ⟨s, hs, hlist⟩ := hpart.toList
    have hspace (cs : List Char) : skip (' ' :: (s.toList ++ cs)) = s.toList ++ cs :=
      skip_of_head? fun c hc => (hs.head?_append cs c hc).1
    by_cases hlast : parts = []
    · subst hlast
      cases hparts
      rw [Text.joined, hlist] at hfuel ⊢
      simp only [List.length_append, List.length_cons] at hfuel
      simp only [List.append_assoc, List.cons_append]
      rw [members?, text?_quoted]
      simp only [Option.bind_eq_bind, Option.bind_some, skip_cons (show isSpace ':' = false from rfl), hspace]
      rw [hs.eq (by omega) (endsNumber_newLine _ _)]
      simp only [Option.bind_some, skip_newLine_cons (show isSpace '\x7d' = false from rfl)]
    · rw [toList_joined_cons _ _ hlast, hlist] at hfuel ⊢
      simp only [List.length_append, toList_between, List.length_cons] at hfuel
      simp only [toList_between, List.append_assoc, List.cons_append]
      rw [members?, text?_quoted]
      simp only [Option.bind_eq_bind, Option.bind_some, skip_cons (show isSpace ':' = false from rfl), hspace]
      rw [hs.eq (by omega) (endsNumber_comma _)]
      simp only [Option.bind_some, skip_cons (show isSpace ',' = false from rfl)]
      rw [skip_newLine fun c hc => by rw [head?_joined_members hparts hlast _ c hc]; rfl,
        ih hlast (by omega)]
      rfl

/-! ## Values that are read back -/

/-- **Values that JSON can hold**, nested at most so deep: integers short enough to be written, floats with
an exact text, and objects of which no two members have the same name. -/
inductive Readable : Nat → Value → Prop where
  | unset {depth : Nat} : Readable depth .unset
  | bool {depth : Nat} (b : Bool) : Readable depth (.bool b)
  | int {depth : Nat} {n : Int} (short : Value.isShort n = true) : Readable depth (.int n)
  | float {depth : Nat} {x : Float} (exact_text : IsExact x) : Readable depth (.float x)
  | text {depth : Nat} (s : String) : Readable depth (.text s)
  | list {depth : Nat} {items : List Value} (h : ∀ v ∈ items, Readable depth v) :
    Readable (depth + 1) (.list items)
  | object {depth : Nat} {members : List (String × Value)} (names : (members.map Prod.fst).Nodup)
    (h : ∀ m ∈ members, Readable depth m.2) :
    Readable (depth + 1) (.dict (members.map fun m => (.text m.1, m.2)))

/-- An object with distinct names keeps its members as they are. -/
theorem object_of_nodup {members : List (String × Value)} (names : (members.map Prod.fst).Nodup) :
    object members = .dict (members.map fun m => (.text m.1, m.2)) := by
  have hentries : (OrderedMap.ofList members).entries = members :=
    OrderedMap.entries_insertAll (m := .empty) names
  rw [object, hentries]

theorem reads_list {parts : List String} {items : List Value} (h : List.Forall₂ (Reads depth) parts items) :
    Reads (depth + 1) (block "[" "]" level parts) (.list items) := by
  have hopen : "[".toList = ['['] := rfl
  have hclose : "]".toList = [']'] := rfl
  by_cases hempty : parts = []
  · subst hempty
    cases h
    have hblock : block "[" "]" level [] = "[]" := rfl
    rw [hblock]
    exact .of_succ (by decide) fun fuel rest _ => rfl
  refine ⟨fun {fuel rest} hfuel _ => ?_⟩
  rw [toList_block hempty] at hfuel ⊢
  simp only [hopen, hclose, List.append_assoc, List.cons_append, List.nil_append, List.length_append,
    List.length_cons, List.length_nil] at hfuel ⊢
  obtain ⟨fuel, rfl⟩ : ∃ k, fuel = k + 1 := ⟨fuel - 1, by omega⟩
  rw [value?, skip_newLine fun c hc => (head?_joined_reads h hempty _ c hc).1]
  split
  · next heq => exact absurd rfl (head?_joined_reads h hempty _ ']' (by rw [heq]; rfl)).2
  · rw [items?_joined h hempty (by omega)]
    rfl

theorem reads_object {parts : List String} {members : List (String × Value)}
    (h : List.Forall₂ (ReadsMember depth) parts members) :
    Reads (depth + 1) (block "\x7b" "\x7d" level parts) (object members) := by
  have hopen : "\x7b".toList = ['\x7b'] := rfl
  have hclose : "\x7d".toList = ['\x7d'] := rfl
  by_cases hempty : parts = []
  · subst hempty
    cases h
    have hblock : block "\x7b" "\x7d" level [] = "\x7b\x7d" := rfl
    rw [hblock]
    exact .of_succ (by decide) fun fuel rest _ => rfl
  refine ⟨fun {fuel rest} hfuel _ => ?_⟩
  rw [toList_block hempty] at hfuel ⊢
  simp only [hopen, hclose, List.append_assoc, List.cons_append, List.nil_append, List.length_append,
    List.length_cons, List.length_nil] at hfuel ⊢
  obtain ⟨fuel, rfl⟩ : ∃ k, fuel = k + 1 := ⟨fuel - 1, by omega⟩
  rw [value?, skip_newLine fun c hc => by rw [head?_joined_members h hempty _ c hc]; rfl]
  split
  · next heq => exact absurd (head?_joined_members h hempty _ '\x7d' (by rw [heq]; rfl)) (by decide)
  · rw [members?_joined h hempty (by omega)]
    rfl

theorem writeItems_reads {items : List Value}
    (h : ∀ v ∈ items, ∃ s, write level v = .ok s ∧ Reads depth s v) :
    ∃ parts, writeItems level items = .ok parts ∧ List.Forall₂ (Reads depth) parts items := by
  induction items with
  | nil => exact ⟨[], rfl, .nil⟩
  | cons v items ih =>
    obtain ⟨s, hs, hv⟩ := h v List.mem_cons_self
    obtain ⟨parts, hparts, hreads⟩ := ih fun w hw => h w (List.mem_cons_of_mem _ hw)
    exact ⟨s :: parts, by rw [writeItems, hs, hparts]; rfl, .cons hv hreads⟩

theorem writeEntries_reads {members : List (String × Value)}
    (h : ∀ m ∈ members, ∃ s, write level m.2 = .ok s ∧ Reads depth s m.2) :
    ∃ parts, writeEntries level (members.map fun m => (.text m.1, m.2)) = .ok parts ∧
      List.Forall₂ (ReadsMember depth) parts members := by
  induction members with
  | nil => exact ⟨[], rfl, .nil⟩
  | cons m members ih =>
    obtain ⟨s, hs, hv⟩ := h m List.mem_cons_self
    obtain ⟨parts, hparts, hreads⟩ := ih fun w hw => h w (List.mem_cons_of_mem _ hw)
    exact ⟨_, by rw [List.map_cons, writeEntries, hs, hparts]; rfl, .cons ⟨s, rfl, hv⟩ hreads⟩

/-- **Every value that JSON can hold** is written, and its text stands for it. -/
theorem Readable.reads {depth : Nat} {v : Value} (h : Readable depth v) (level : Nat) :
    ∃ s, write level v = .ok s ∧ Reads depth s v := by
  induction h generalizing level with
  | unset => exact ⟨_, rfl, .of_succ (by decide) fun fuel rest _ => rfl⟩
  | bool b => cases b <;> exact ⟨_, rfl, .of_succ (by decide) fun fuel rest _ => rfl⟩
  | int short => exact ⟨_, by rw [write, if_pos short], .toString short⟩
  | float exact_text => exact ⟨_, rfl, .floatText exact_text⟩
  | text s => exact ⟨_, rfl, .quoted s⟩
  | list h ih =>
    obtain ⟨parts, hparts, hreads⟩ := writeItems_reads fun v hv => ih v hv (level + 1)
    exact ⟨_, by rw [write, hparts]; rfl, reads_list hreads⟩
  | object names h ih =>
    obtain ⟨parts, hparts, hreads⟩ := writeEntries_reads fun m hm => ih m hm (level + 1)
    rw [← object_of_nodup names]
    exact ⟨_, by rw [object_of_nodup names, write, hparts]; rfl, reads_object hreads⟩

/-- **The round trip**: a value that JSON can hold is read back from its text. -/
theorem Readable.read?_write {v : Value} (h : Readable maxDepth v) :
    ∃ s, write 0 v = .ok s ∧ read? s = some v := by
  obtain ⟨s, hs, hv⟩ := h.reads 0
  refine ⟨s, hs, ?_⟩
  have hread : value? (s.toList.length + 2) maxDepth (s.toList ++ []) = some (v, []) :=
    hv.eq (by omega) .nil
  have hskip : skip s.toList = s.toList := by
    obtain ⟨c, ds, hlist, hc, -⟩ := hv.head
    rw [hlist]
    exact skip_cons hc ds
  rw [List.append_nil] at hread
  unfold read?
  dsimp only
  rw [hskip, hread]
  rfl

end Json
end Walkthrough
