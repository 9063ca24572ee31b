import Mathlib.Data.List.Basic
import HolderInjection.TypeExpr.Lexeme

/-!
# Trimmed text

Trimming splits a list into two ends that satisfy the predicate and a core that neither begins nor
ends with such an item. Padding never changes the core, and lexemes are trimmed as their text is.
-/

namespace HolderInjection

namespace Text

variable {α : Type} {p : α → Bool}

theorem dropEndWhile_append_of_all {items tail : List α} (h : ∀ x ∈ tail, p x) :
    dropEndWhile p (items ++ tail) = dropEndWhile p items := by
  have hrev : ∀ x ∈ tail.reverse, p x := fun x hx => h x (List.mem_reverse.mp hx)
  unfold dropEndWhile
  rw [List.reverse_append, List.dropWhile_append_of_pos hrev]

theorem dropEndWhile_eq_nil {items : List α} (h : ∀ x ∈ items, p x) :
    dropEndWhile p items = [] := by
  rw [← List.nil_append items]
  exact dropEndWhile_append_of_all h

/-- Padding does not change what is left after trimming. -/
theorem trimWhile_pad {front core tail : List α} (hfront : ∀ x ∈ front, p x)
    (htail : ∀ x ∈ tail, p x) :
    trimWhile p (front ++ core ++ tail) = trimWhile p core := by
  unfold trimWhile
  rw [List.append_assoc, List.dropWhile_append_of_pos hfront, List.dropWhile_append]
  split
  · rename_i hcore
    have hcore : core.dropWhile p = [] := by simpa using hcore
    have htail' : tail.dropWhile p = [] := by
      have h : (tail ++ []).dropWhile p = _ := List.dropWhile_append_of_pos htail
      simpa using h
    rw [hcore, htail']
  · exact dropEndWhile_append_of_all htail

theorem exists_dropEndWhile (p : α → Bool) (items : List α) :
    ∃ tail, items = dropEndWhile p items ++ tail ∧ ∀ x ∈ tail, p x := by
  refine ⟨(items.reverse.takeWhile p).reverse, ?_, ?_⟩
  · unfold dropEndWhile
    rw [← List.reverse_append, List.takeWhile_append_dropWhile, List.reverse_reverse]
  · intro x hx
    exact List.all_eq_true.mp List.all_takeWhile x (List.mem_reverse.mp hx)

/-- What trimming removes satisfies the predicate. -/
theorem exists_trimWhile (p : α → Bool) (items : List α) :
    ∃ front tail, items = front ++ trimWhile p items ++ tail ∧ (∀ x ∈ front, p x) ∧
      ∀ x ∈ tail, p x := by
  obtain ⟨tail, htail, hall⟩ := exists_dropEndWhile p (items.dropWhile p)
  refine ⟨items.takeWhile p, tail, ?_, ?_, hall⟩
  · unfold trimWhile
    rw [List.append_assoc, ← htail, List.takeWhile_append_dropWhile]
  · exact List.all_eq_true.mp List.all_takeWhile

theorem dropWhile_eq_self_of_head? {items : List α} (h : ∀ x ∈ items.head?, ¬p x) :
    items.dropWhile p = items := by
  cases items with
  | nil => rfl
  | cons x rest => exact List.dropWhile_cons_of_neg (h x rfl)

/-- A list that neither begins nor ends with an item of the predicate is trimmed already. -/
theorem trimWhile_eq_self {items : List α} (hfirst : ∀ x ∈ items.head?, ¬p x)
    (hlast : ∀ x ∈ items.getLast?, ¬p x) : trimWhile p items = items := by
  unfold trimWhile dropEndWhile
  rw [dropWhile_eq_self_of_head? hfirst, dropWhile_eq_self_of_head?, List.reverse_reverse]
  rwa [List.head?_reverse]

theorem trimWhile_eq_self_of_forall {items : List α} (h : ∀ x ∈ items, ¬p x) :
    trimWhile p items = items :=
  trimWhile_eq_self (fun x hx => h x (List.mem_of_mem_head? hx))
    (fun x hx => h x (List.mem_of_mem_getLast? hx))

/-- Trimming removes blanks only. -/
theorem mem_trimWhile {x : α} {items : List α} (h : x ∈ items) (hx : ¬p x) :
    x ∈ trimWhile p items := by
  obtain ⟨front, tail, hsplit, hfront, htail⟩ := exists_trimWhile p items
  rw [hsplit, List.mem_append, List.mem_append] at h
  rcases h with (h | h) | h
  · exact absurd (hfront x h) hx
  · exact h
  · exact absurd (htail x h) hx

theorem not_of_mem_head?_dropWhile {items : List α} :
    ∀ x ∈ (items.dropWhile p).head?, ¬p x := by
  intro x hx
  have hne : items.dropWhile p ≠ [] := by
    intro hnil
    rw [hnil] at hx
    simp at hx
  have hhead := List.head_dropWhile_not p hne
  rw [List.head?_eq_some_head hne] at hx
  cases hx
  simpa using hhead

theorem not_of_mem_getLast?_trimWhile {items : List α} :
    ∀ x ∈ (trimWhile p items).getLast?, ¬p x := by
  unfold trimWhile dropEndWhile
  rw [List.getLast?_reverse]
  exact not_of_mem_head?_dropWhile

theorem not_of_mem_head?_trimWhile {items : List α} :
    ∀ x ∈ (trimWhile p items).head?, ¬p x := by
  intro x hx
  obtain ⟨rest, hrest⟩ := dropEndWhile_isPrefix p (items.dropWhile p)
  have hhead : (dropEndWhile p (items.dropWhile p)).head? = some x := hx
  refine (not_of_mem_head?_dropWhile : ∀ y ∈ (items.dropWhile p).head?, ¬p y) x ?_
  rw [← hrest, List.head?_append, hhead]
  rfl

theorem dropEndWhile_append_cons {x : α} (hx : ¬p x) (items rest : List α) :
    dropEndWhile p (items ++ x :: rest) = items ++ x :: dropEndWhile p rest := by
  unfold dropEndWhile
  rw [List.reverse_append, List.reverse_cons, List.append_assoc, List.singleton_append,
    List.dropWhile_append]
  split
  · rename_i hempty
    rw [List.isEmpty_iff.mp hempty, List.dropWhile_cons_of_neg hx]
    simp
  · simp

/-- Around an item that is kept, trimming works on both sides by themselves. -/
theorem trimWhile_append_cons {x : α} (hx : ¬p x) (items rest : List α) :
    trimWhile p (items ++ x :: rest) = items.dropWhile p ++ x :: dropEndWhile p rest := by
  unfold trimWhile
  rw [List.dropWhile_append]
  split
  · rename_i hempty
    rw [List.isEmpty_iff.mp hempty, List.dropWhile_cons_of_neg hx]
    exact dropEndWhile_append_cons hx [] rest
  · exact dropEndWhile_append_cons hx _ rest

/-- Only blanks are removed around two items that are kept. -/
theorem trimWhile_core {front core : List α} {x : α} (hfront : ∀ y ∈ front, p y)
    (hfirst : ∀ y ∈ core.head?, ¬p y) (hx : ¬p x) (rest : List α) :
    trimWhile p (front ++ core ++ x :: rest) = core ++ x :: dropEndWhile p rest := by
  rw [trimWhile_append_cons hx, List.dropWhile_append_of_pos hfront,
    dropWhile_eq_self_of_head? hfirst]

theorem trimWhile_dropEndWhile (items : List α) :
    trimWhile p (dropEndWhile p items) = trimWhile p items := by
  obtain ⟨tail, hsplit, htail⟩ := exists_dropEndWhile p items
  have hpad : trimWhile p ([] ++ dropEndWhile p items ++ tail) = _ := trimWhile_pad (by simp) htail
  rw [List.nil_append, ← hsplit] at hpad
  exact hpad.symm

/-- Trimming twice is trimming once. -/
theorem trimWhile_trimWhile (items : List α) :
    trimWhile p (trimWhile p items) = trimWhile p items :=
  trimWhile_eq_self not_of_mem_head?_trimWhile not_of_mem_getLast?_trimWhile

theorem isBlank_append {front tail : List Char} (hfront : isBlank front)
    (htail : isBlank tail) : isBlank (front ++ tail) := by
  unfold isBlank at *
  rw [List.all_append, hfront, htail]
  rfl

theorem trim_pad {front text tail : List Char} (hfront : isBlank front) (htail : isBlank tail) :
    trim (front ++ text ++ tail) = trim text :=
  trimWhile_pad (List.all_eq_true.mp hfront) (List.all_eq_true.mp htail)

end Text

namespace Lexeme

@[simp]
theorem text_nil : text [] = [] := rfl

@[simp]
theorem text_cons (lexeme : Lexeme) (rest : List Lexeme) :
    text (lexeme :: rest) = lexeme.chars ++ text rest := by
  simp [text]

@[simp]
theorem text_append (front rest : List Lexeme) :
    text (front ++ rest) = text front ++ text rest := by
  simp [text]

theorem isBlankChar_of_isBlank {lexemes : List Lexeme} (h : ∀ x ∈ lexemes, isBlank x) :
    ∀ c ∈ text lexemes, Text.isBlankChar c := by
  intro c hc
  obtain ⟨x, hx, hcx⟩ := List.mem_flatMap.mp hc
  have hblank := h x hx
  cases x with
  | plain d =>
    have hcd : c = d := by simpa [chars] using hcx
    rw [hcd]
    exact hblank
  | _ => simp [isBlank] at hblank

/-- Outside the plain lexemes no character is blank. -/
theorem not_isBlankChar_of_not_isBlank {x : Lexeme} (h : ¬isBlank x) :
    ∀ c ∈ x.chars, ¬Text.isBlankChar c := by
  intro c hc
  cases x with
  | plain d =>
    have hcd : c = d := by simpa [chars] using hc
    rw [hcd]
    exact h
  | arrow =>
    have hc : c = '-' ∨ c = '>' := by simpa [chars] using hc
    rcases hc with rfl | rfl <;> decide
  | comma =>
    have hc : c = ',' := by simpa [chars] using hc
    rw [hc]
    decide
  | opener bracket =>
    have hc : c = bracket.opening := by simpa [chars] using hc
    rw [hc]
    cases bracket <;> decide
  | closer bracket =>
    have hc : c = bracket.closing := by simpa [chars] using hc
    rw [hc]
    cases bracket <;> decide

theorem chars_ne_nil (x : Lexeme) : x.chars ≠ [] := by
  cases x <;> simp [chars]

theorem mem_head?_text {lexemes : List Lexeme} {c : Char} (h : c ∈ (text lexemes).head?) :
    ∃ x ∈ lexemes.head?, c ∈ x.chars := by
  cases lexemes with
  | nil => simp at h
  | cons x rest =>
    refine ⟨x, rfl, ?_⟩
    obtain ⟨d, ds, hd⟩ := List.exists_cons_of_ne_nil (chars_ne_nil x)
    rw [text_cons, hd, List.cons_append, List.head?_cons] at h
    cases h
    rw [hd]
    exact List.mem_cons_self

theorem mem_getLast?_text {lexemes : List Lexeme} {c : Char} (h : c ∈ (text lexemes).getLast?) :
    ∃ x ∈ lexemes.getLast?, c ∈ x.chars := by
  rcases List.eq_nil_or_concat lexemes with rfl | ⟨front, x, rfl⟩
  · simp at h
  · refine ⟨x, by simp, ?_⟩
    rw [List.concat_eq_append, text_append, text_cons, text_nil, List.append_nil,
      List.getLast?_append_of_ne_nil _ (chars_ne_nil x)] at h
    exact List.mem_of_mem_getLast? h

theorem exists_trim (lexemes : List Lexeme) :
    ∃ front tail, lexemes = front ++ trim lexemes ++ tail ∧ (∀ x ∈ front, isBlank x) ∧
      ∀ x ∈ tail, isBlank x :=
  Text.exists_trimWhile isBlank lexemes

theorem trim_pad {front core tail : List Lexeme} (hfront : ∀ x ∈ front, isBlank x)
    (htail : ∀ x ∈ tail, isBlank x) : trim (front ++ core ++ tail) = trim core :=
  Text.trimWhile_pad hfront htail

theorem trim_trim (lexemes : List Lexeme) : trim (trim lexemes) = trim lexemes :=
  Text.trimWhile_trimWhile lexemes

/-- Trimming the lexemes of a text trims the text. -/
theorem text_trim (lexemes : List Lexeme) : text (trim lexemes) = Text.trim (text lexemes) := by
  obtain ⟨front, tail, hsplit, hfront, htail⟩ := exists_trim lexemes
  have hcore : Text.trim (text (trim lexemes)) = text (trim lexemes) := by
    apply Text.trimWhile_eq_self
    · intro c hc
      obtain ⟨x, hx, hcx⟩ := mem_head?_text hc
      exact not_isBlankChar_of_not_isBlank (Text.not_of_mem_head?_trimWhile x hx) c hcx
    · intro c hc
      obtain ⟨x, hx, hcx⟩ := mem_getLast?_text hc
      exact not_isBlankChar_of_not_isBlank (Text.not_of_mem_getLast?_trimWhile x hx) c hcx
  have htext : text lexemes = text front ++ text (trim lexemes) ++ text tail := by
    have h := congrArg text hsplit
    rwa [text_append, text_append] at h
  rw [htext, Text.trim, Text.trimWhile_pad (isBlankChar_of_isBlank hfront)
    (isBlankChar_of_isBlank htail)]
  exact hcore.symm

end Lexeme

end HolderInjection
