import HolderInjection.Text.Line
import Mathlib.Data.List.Basic

/-!
# Parts of texts

A part of a text is still there when texts are put together. When a text is moved to the right it
is broken where lines end, and nowhere else. What is sorted by a text stands in the order of texts.
-/

namespace HolderInjection.Text

theorem isInfix_intercalate {α : Type} (separator : List α) {parts : List (List α)}
    {part : List α} (h : part ∈ parts) : part <:+: separator.intercalate parts := by
  induction parts with
  | nil => cases h
  | cons first parts ih =>
    cases parts with
    | nil => simp only [List.mem_singleton.mp h, List.intercalate_singleton, List.infix_rfl]
    | cons second parts =>
      rw [List.intercalate_cons_cons]
      rcases List.mem_cons.mp h with rfl | h
      · exact List.infix_append_of_infix_left (List.prefix_append _ _).isInfix
      · exact List.infix_append_of_infix_right (ih h)

theorem intercalate_append {α : Type} (separator : List α) {front rest : List (List α)}
    (hfront : front ≠ []) (hrest : rest ≠ []) :
    separator.intercalate (front ++ rest) =
      separator.intercalate front ++ separator ++ separator.intercalate rest := by
  induction front with
  | nil => exact absurd rfl hfront
  | cons first front ih =>
    cases front with
    | nil =>
      obtain ⟨second, others, rfl⟩ := List.exists_cons_of_ne_nil hrest
      rw [List.singleton_append, List.intercalate_cons_cons, List.intercalate_singleton]
    | cons second front =>
      rw [List.cons_append, List.cons_append, List.intercalate_cons_cons,
        List.intercalate_cons_cons, ← List.cons_append, ih (List.cons_ne_nil second front)]
      simp only [List.append_assoc]

theorem pairwise_mergeSort {α : Type} (key : α → String) (items : List α) :
    (items.mergeSort fun a b => decide (key a ≤ key b)).Pairwise fun a b => key a ≤ key b := by
  have htrans (a b c : α) (hab : decide (key a ≤ key b)) (hbc : decide (key b ≤ key c)) :
      decide (key a ≤ key c) :=
    decide_eq_true (String.le_trans (of_decide_eq_true hab) (of_decide_eq_true hbc))
  have htotal (a b : α) : decide (key a ≤ key b) || decide (key b ≤ key a) := by
    simpa using String.le_total (key a) (key b)
  simpa only [decide_eq_true_eq] using List.pairwise_mergeSort htrans htotal items

/-- Whether a text occurs in another one. -/
def Occurs (part text : String) : Prop :=
  part.toList <:+: text.toList

variable {part text : String}

theorem Occurs.append_left (h : Occurs part text) (front : String) :
    Occurs part (front ++ text) := by
  rw [Occurs, String.toList_append]
  exact List.IsInfix.trans h (List.suffix_append _ _).isInfix

theorem Occurs.append_right (h : Occurs part text) (back : String) :
    Occurs part (text ++ back) := by
  rw [Occurs, String.toList_append]
  exact List.IsInfix.trans h (List.prefix_append _ _).isInfix

theorem Occurs.join (h : Occurs part text) {texts : List String} (hmem : text ∈ texts) :
    Occurs part (String.join texts) := by
  have htext : text.toList <:+: (String.join texts).toList := by
    rw [String.toList_join]
    exact List.infix_of_mem_flatten (List.mem_map_of_mem hmem)
  exact List.IsInfix.trans h htext

theorem Occurs.intercalate (h : Occurs part text) (separator : String) {texts : List String}
    (hmem : text ∈ texts) : Occurs part (separator.intercalate texts) := by
  rw [Occurs, String.toList_intercalate]
  exact List.IsInfix.trans h (isInfix_intercalate _ (List.mem_map_of_mem hmem))

/-- A part of a text that cannot be broken where lines end. -/
structure IsInline (part : List Char) : Prop where
  ne_nil : part ≠ []
  line : ∀ c ∈ part, ¬isLineEnd c

theorem eq_nil_of_isPrefix {part text : List Char} {c : Char} (hline : ∀ d ∈ part, ¬isLineEnd d)
    (hend : isLineEnd c) (h : part <+: c :: text) : part = [] := by
  cases part with
  | nil => rfl
  | cons d part =>
    obtain ⟨rfl, -⟩ := List.cons_prefix_cons.mp h
    exact absurd hend (hline d List.mem_cons_self)

theorem IsInline.of_cons {part text : List Char} {c : Char} (hpart : IsInline part)
    (hend : isLineEnd c) (h : part <:+: c :: text) : part <:+: text := by
  rcases List.infix_cons_iff.mp h with hprefix | hinfix
  · exact absurd (eq_nil_of_isPrefix hpart.line hend hprefix) hpart.ne_nil
  · exact hinfix

theorem headD_consFirst (c : Char) (rest : List (List Char)) :
    (consFirst c rest).headD [] = c :: rest.headD [] := by
  cases rest <;> rfl

theorem isPrefix_headD_lines {part text : List Char} (hline : ∀ c ∈ part, ¬isLineEnd c)
    (h : part <+: text) : part <+: (lines text).headD [] := by
  fun_induction lines text generalizing part with
  | case1 => exact h
  | case2 text ih =>
    rw [eq_nil_of_isPrefix hline (by decide) h]
    exact List.nil_prefix
  | case3 c text _ hend ih =>
    rw [eq_nil_of_isPrefix hline hend h]
    exact List.nil_prefix
  | case4 c text _ hend ih =>
    rw [headD_consFirst]
    cases part with
    | nil => exact List.nil_prefix
    | cons d part =>
      obtain ⟨rfl, hrest⟩ := List.cons_prefix_cons.mp h
      have hrestline : ∀ e ∈ part, ¬isLineEnd e := fun e he =>
        hline e (List.mem_cons_of_mem d he)
      exact List.cons_prefix_cons.mpr ⟨rfl, ih hrestline hrest⟩

theorem exists_mem_consFirst {line : List Char} (c : Char) {rest : List (List Char)}
    (h : line ∈ rest) : ∃ longer ∈ consFirst c rest, line <:+: longer := by
  cases rest with
  | nil => cases h
  | cons first rest =>
    rcases List.mem_cons.mp h with rfl | h
    · exact ⟨c :: line, List.mem_cons_self, List.infix_cons List.infix_rfl⟩
    · exact ⟨line, List.mem_cons_of_mem _ h, List.infix_rfl⟩

theorem exists_line_of_isInfix {part text : List Char} (hpart : IsInline part)
    (h : part <:+: text) : ∃ line ∈ lines text, part <:+: line := by
  fun_induction lines text with
  | case1 => exact absurd (List.infix_nil.mp h) hpart.ne_nil
  | case2 text ih =>
    obtain ⟨line, hmem, hline⟩ := ih (hpart.of_cons (by decide) (hpart.of_cons (by decide) h))
    exact ⟨line, List.mem_cons_of_mem _ hmem, hline⟩
  | case3 c text _ hend ih =>
    obtain ⟨line, hmem, hline⟩ := ih (hpart.of_cons hend h)
    exact ⟨line, List.mem_cons_of_mem _ hmem, hline⟩
  | case4 c text hbreak hend ih =>
    rcases List.infix_cons_iff.mp h with hprefix | hinfix
    · -- the line that the character is put in front of goes on as the part does
      have hfirst := isPrefix_headD_lines hpart.line hprefix
      rw [lines.eq_3 c text hbreak, if_neg hend] at hfirst
      have hmem : (consFirst c (lines text)).headD [] ∈ consFirst c (lines text) := by
        cases lines text <;> exact List.mem_cons_self
      exact ⟨_, hmem, hfirst.isInfix⟩
    · obtain ⟨line, hmem, hline⟩ := ih hinfix
      obtain ⟨longer, hlonger, hinfix⟩ := exists_mem_consFirst c hmem
      exact ⟨longer, hlonger, hline.trans hinfix⟩

theorem Occurs.indent (h : Occurs part text) (hpart : IsInline part.toList) :
    Occurs part (indent text) := by
  obtain ⟨line, hmem, hline⟩ := exists_line_of_isInfix hpart h
  have hmoved : part.toList <:+:
      if isBlank line then line else margin.toList ++ line := by
    split
    · exact hline
    · exact hline.trans (List.suffix_append _ _).isInfix
  rw [Occurs, Text.indent, String.toList_ofList, indentWith, List.flatMap_def]
  exact hmoved.trans (List.infix_of_mem_flatten (List.mem_map_of_mem hmem))

end HolderInjection.Text
