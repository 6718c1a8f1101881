/-
# Values in rich text

In rich text a value is escaped and set in bold, then all values are put between the parts of the template, and
at the end line breaks are put into the whole. A line feed stays a line feed until then, so breaking the lines of
the whole is breaking the lines of each part and of each value (`breakLines_interleaved`).

What stands for a value is a segment (`IsSegment`): nothing for a value without text, and otherwise a harmless
text in bold that gives back the text of the value (`isSegment_bold`). So nothing in a value is taken for markup,
and nothing of it is lost (`substitute_rich`).
-/

import Walkthrough.Proofs.Template.Filling
import Walkthrough.Proofs.Text.Markup

namespace Walkthrough
namespace Template

theorem breakLines_flatten (literals : List (List Char)) :
    Text.breakLines literals.flatten = (literals.map Text.breakLines).flatten := by
  induction literals with
  | nil => rfl
  | cons literal rest ih => rw [List.flatten_cons, Text.breakLines_append, ih, List.map_cons, List.flatten_cons]

/-- **Breaking lines** works on every part and on every value by itself. -/
theorem breakLines_interleaved (literals values : List (List Char)) :
    Text.breakLines (interleaved literals values) =
      interleaved (literals.map Text.breakLines) (values.map Text.breakLines) := by
  induction literals generalizing values with
  | nil => rfl
  | cons literal rest ih =>
    cases values with
    | nil => exact breakLines_flatten (literal :: rest)
    | cons value values =>
      rw [interleaved, Text.breakLines_append, Text.breakLines_append, ih]
      rfl

/-! ## Segments -/

/-- **What stands for a text in rich text**: nothing if the text is empty, and otherwise, in bold, a text that is
harmless but for its line breaks and that gives back the text when they and its entities are undone. -/
inductive IsSegment : List Char → List Char → Prop
  | empty : IsSegment [] []
  | bold {text e : List Char} (nonempty : text ≠ []) (harmless : Text.Harmless (Text.withoutBreaks e))
      (undone : Text.plainText e = text) : IsSegment text ("<b>".toList ++ e ++ "</b>".toList)

theorem escapeMarkup_eq_nil_iff {cs : List Char} : Text.escapeMarkup cs = [] ↔ cs = [] := by
  constructor
  · intro h
    rw [← Text.plainText_breakLines cs, h]
    rfl
  · rintro rfl
    rfl

/-- A value in rich text becomes a segment when lines are broken. -/
theorem isSegment_bold (cs : List Char) : IsSegment cs (Text.breakLines (bold cs)) := by
  rcases eq_or_ne cs [] with rfl | hne
  · exact .empty
  · have hescaped : (Text.escapeMarkup cs).isEmpty = false :=
      List.isEmpty_eq_false_iff.2 (mt escapeMarkup_eq_nil_iff.1 hne)
    rw [bold, hescaped, if_neg Bool.false_ne_true, Text.breakLines_append, Text.breakLines_append]
    refine .bold hne ?_ (Text.plainText_breakLines cs)
    rw [Text.withoutBreaks_breakLines]
    exact Text.harmless_escapeMarkup _

/-! ## Filling in rich text -/

/-- **Values cannot inject markup into rich text, and lose nothing.** What is filled in is the parts between the
tags, their lines broken, and one segment for the text of each value, in turn. There is such a result exactly if
every tag, by a number that can be read, stands for a text. -/
theorem substitute_rich (marks : Marks) (lookup : Int → Option Value) (template : String) :
    let found := tags marks template
    (∀ result, substitute marks true lookup template = .ok result → ∃ segments,
      List.Forall₂ (fun t segment => ∃ text, Shows lookup t.inner text ∧ IsSegment text segment) found segments ∧
      result.toList = interleaved ((literals template.toList 0 found).map Text.breakLines) segments) ∧
    ((∃ result, substitute marks true lookup template = .ok result) ↔
      ∀ t ∈ found, IsShort t.inner ∧ ∃ text, Shows lookup t.inner text) := by
  refine ⟨fun result h => ?_, exists_substitute_eq_ok_iff marks true lookup template⟩
  rw [substitute_eq] at h
  obtain ⟨values, hvalues, rfl⟩ := map_eq_ok_iff.1 h
  refine ⟨values.map Text.breakLines, ?_, ?_⟩
  · rw [List.forall₂_map_right_iff]
    refine (mapM_eq_ok_iff.1 hvalues).imp fun t value hvalue => ?_
    obtain ⟨-, text, htext, rfl⟩ := fill_eq_ok_iff.1 hvalue
    exact ⟨text, htext, isSegment_bold text⟩
  · rw [String.toList_ofList]
    exact breakLines_interleaved _ values

/-- A value that holds an element, a line feed and an entity. -/
theorem substitute_element :
    let lookup : Int → Option Value := fun n => if n = 1 then some (.text "<i>\n&lt;") else none
    substitute ⟨"%", "%"⟩ true lookup "a\nb%1%" = .ok "a<br/>b<b>&lt;i&gt;<br/>&amp;lt;</b>" ∧
      IsSegment "<i>\n&lt;".toList "<b>&lt;i&gt;<br/>&amp;lt;</b>".toList := by
  intro lookup
  have hresult : substitute ⟨"%", "%"⟩ true lookup "a\nb%1%" = .ok "a<br/>b<b>&lt;i&gt;<br/>&amp;lt;</b>" := by rfl
  have hfound : tags ⟨"%", "%"⟩ "a\nb%1%" = [(3, 6, "1")] := by decide
  obtain ⟨segments, hsegments, hinterleaved⟩ := (substitute_rich ⟨"%", "%"⟩ lookup "a\nb%1%").1 _ hresult
  rw [hfound] at hsegments hinterleaved
  obtain ⟨segment, rest, ⟨text, ⟨v, hv, htext⟩, hsegment⟩, hrest, rfl⟩ := List.forall₂_cons_left_iff.1 hsegments
  obtain rfl := List.forall₂_nil_left_iff.1 hrest
  obtain rfl : Value.text "<i>\n&lt;" = v := Option.some.inj hv
  obtain rfl : "<i>\n&lt;".toList = text := Except.ok.inj htext
  have happend : "a<br/>b".toList ++ "<b>&lt;i&gt;<br/>&amp;lt;</b>".toList = "a<br/>b".toList ++ (segment ++ []) :=
    hinterleaved
  rw [List.append_cancel_left happend, List.append_nil]
  exact ⟨hresult, hsegment⟩

end Template
end Walkthrough
