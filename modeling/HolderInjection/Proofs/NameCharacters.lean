import HolderInjection.Name
import HolderInjection.Text.Blank
import Mathlib.Data.List.Basic
import Mathlib.Tactic.Tauto

/-!
# Characters of names

A qualified name holds letters, digits, underscores, dollar signs and dots. None of them is blank,
and none is a bracket, a comma, a mark or part of an arrow.
-/

namespace HolderInjection

namespace Text

theorem of_inRanges {n : Nat} {ranges : List (Nat × Nat)} {p : Nat → Bool}
    (hall : ranges.all fun r => (List.range' r.1 (r.2 + 1 - r.1)).all p)
    (hn : inRanges n ranges = true) : p n := by
  obtain ⟨r, hr, hlow, hhigh⟩ := exists_range_of_inRanges hn
  have hrange := List.all_eq_true.mp hall r hr
  exact List.all_eq_true.mp hrange n (List.mem_range'_1.mpr ⟨hlow, by omega⟩)

theorem pieces_ne_nil (isSeparator : Char → Bool) (text : List Char) :
    pieces isSeparator text ≠ [] := by
  induction text with
  | nil => simp [pieces]
  | cons c text ih =>
    rw [pieces]
    split
    · simp
    · intro hnil
      exact ih (List.modifyHead_eq_nil_iff.mp hnil)

theorem pieces_append_cons {isSeparator : Char → Bool} {c : Char} (hc : isSeparator c)
    (front rest : List Char) :
    pieces isSeparator (front ++ c :: rest) =
      pieces isSeparator front ++ pieces isSeparator rest := by
  induction front with
  | nil => simp [pieces, hc]
  | cons d front ih =>
    rw [List.cons_append, pieces, pieces, ih]
    split
    · rfl
    · obtain ⟨first, others, hsplit⟩ := List.exists_cons_of_ne_nil (pieces_ne_nil isSeparator front)
      rw [hsplit]
      rfl

theorem pieces_eq_singleton {isSeparator : Char → Bool} {text : List Char}
    (h : ∀ c ∈ text, ¬isSeparator c) : pieces isSeparator text = [text] := by
  induction text with
  | nil => rfl
  | cons c text ih =>
    rw [pieces, if_neg (h c List.mem_cons_self),
      ih fun d hd => h d (List.mem_cons_of_mem c hd)]
    rfl

/-- No character is lost in a split but the separators. -/
theorem exists_piece_of_mem (isSeparator : Char → Bool) {c : Char} {text : List Char}
    (h : c ∈ text) (hc : ¬isSeparator c) : ∃ piece ∈ pieces isSeparator text, c ∈ piece := by
  induction text with
  | nil => simp at h
  | cons d text ih =>
    rw [pieces]
    by_cases hd : isSeparator d
    · rw [if_pos hd]
      rcases List.mem_cons.mp h with rfl | h
      · exact absurd hd hc
      · obtain ⟨piece, hpiece, hmem⟩ := ih h
        exact ⟨piece, List.mem_cons_of_mem _ hpiece, hmem⟩
    · rw [if_neg hd]
      obtain ⟨first, others, hsplit⟩ := List.exists_cons_of_ne_nil (pieces_ne_nil isSeparator text)
      rw [hsplit] at ih
      rw [hsplit, List.modifyHead_cons]
      rcases List.mem_cons.mp h with rfl | h
      · exact ⟨_, List.mem_cons_self, List.mem_cons_self⟩
      · obtain ⟨piece, hpiece, hmem⟩ := ih h
        rcases List.mem_cons.mp hpiece with rfl | hpiece
        · exact ⟨_, List.mem_cons_self, List.mem_cons_of_mem _ hmem⟩
        · exact ⟨piece, List.mem_cons_of_mem _ hpiece, hmem⟩

end Text

namespace Name

open Text

/-- Whether a character may stand in a qualified name. -/
def isNameChar (c : Char) : Bool :=
  isIdentifierPart c || c == '.'

theorem isIdentifierPart_of_isIdentifierStart {c : Char} (h : isIdentifierStart c) :
    isIdentifierPart c := by
  unfold isIdentifierStart at h
  unfold isIdentifierPart isPackagePart
  rcases Bool.or_eq_true_iff.mp h with h | h
  · simp [h]
  · simp [h]

theorem isIdentifierPart_of_mem {name : List Char} (h : isIdentifier name) :
    ∀ c ∈ name, isIdentifierPart c := by
  intro c hc
  cases name with
  | nil => simp at hc
  | cons d rest =>
    obtain ⟨hstart, hrest⟩ := Bool.and_eq_true_iff.mp h
    rcases List.mem_cons.mp hc with rfl | hc
    · exact isIdentifierPart_of_isIdentifierStart hstart
    · exact List.all_eq_true.mp hrest c hc

theorem isNameChar_of_mem {name : List Char} (h : isQualified name) :
    ∀ c ∈ name, isNameChar c := by
  intro c hc
  unfold isNameChar
  by_cases hdot : c = '.'
  · simp [hdot]
  · have hseparator : ¬(c == '.') := by simpa using hdot
    obtain ⟨piece, hpiece, hmem⟩ := exists_piece_of_mem (· == '.') hc hseparator
    have hid := List.all_eq_true.mp h piece hpiece
    rw [isIdentifierPart_of_mem hid c hmem, Bool.true_or]

theorem ne_nil_of_isQualified {name : List Char} (h : isQualified name) : name ≠ [] := by
  rintro rfl
  exact absurd h (by decide)

theorem ne_of_isNameChar {c d : Char} (hc : isNameChar c) (hd : isNameChar d = false) : c ≠ d := by
  rintro rfl
  rw [hc] at hd
  cases hd

theorem isLetter_or_digit_or_mark {c : Char} (h : isNameChar c) :
    isLetter c ∨ isDecimalDigit c ∨ c = '_' ∨ c = '$' ∨ c = '.' := by
  simp only [isNameChar, isIdentifierPart, isPackagePart, Bool.or_eq_true, beq_iff_eq] at h
  tauto

/-- No character of a name is blank: the ranges of blanks meet neither letters nor digits. -/
theorem not_isBlankChar_of_isNameChar {c : Char} (h : isNameChar c) : ¬isBlankChar c := by
  intro hblank
  have hletter : (!inRanges c.toNat letterRanges) = true :=
    of_inRanges (p := fun n => !inRanges n letterRanges) (by decide +kernel) hblank
  have hdigit : (!inRanges c.toNat decimalDigitRanges) = true :=
    of_inRanges (p := fun n => !inRanges n decimalDigitRanges) (by decide +kernel) hblank
  rcases isLetter_or_digit_or_mark h with h | h | rfl | rfl | rfl
  · rw [isLetter] at h
    rw [h] at hletter
    cases hletter
  · rw [isDecimalDigit] at h
    rw [h] at hdigit
    cases hdigit
  all_goals exact absurd hblank (by decide)

theorem not_isBlankChar_of_mem_head? {name : List Char} (h : isQualified name) (rest : List Char) :
    ∀ c ∈ (name ++ rest).head?, ¬isBlankChar c := by
  intro c hc
  rw [List.head?_append_of_ne_nil _ (ne_nil_of_isQualified h)] at hc
  exact not_isBlankChar_of_isNameChar (isNameChar_of_mem h c (List.mem_of_mem_head? hc))

end Name

end HolderInjection
