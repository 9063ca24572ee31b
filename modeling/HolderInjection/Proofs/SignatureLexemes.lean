import HolderInjection.Proofs.NameCharacters
import HolderInjection.Proofs.TrimmedText

/-!
# The lexemes of a text

Names and blanks are read as plain lexemes, and a text is read piece by piece wherever the cut does
not part an arrow. `Canonical` lexemes are those that their own text is read as.
-/

namespace HolderInjection.Lexeme

/-- Whether a character is a lexeme of its own that is neither a bracket nor a comma. -/
def isPlainChar (c : Char) : Bool :=
  ofChar c = plain c && c != '-'

/-- Lexemes that their text is read as. -/
def Canonical (lexemes : List Lexeme) : Prop :=
  ofText (text lexemes) = lexemes

theorem ofChar_eq_plain {c : Char} (h : ∀ d ∈ ['(', ')', '<', '>', ','], c ≠ d) :
    ofChar c = plain c := by
  simp only [List.mem_cons, List.not_mem_nil, or_false, forall_eq_or_imp, forall_eq] at h
  obtain ⟨hopen, hclose, hless, hgreater, hcomma⟩ := h
  unfold ofChar
  rw [if_neg hopen, if_neg hclose, if_neg hless, if_neg hgreater, if_neg hcomma]

theorem isPlainChar_of_ne {c : Char} (h : ∀ d ∈ ['(', ')', '<', '>', ',', '-'], c ≠ d) :
    isPlainChar c := by
  have hplain : ofChar c = plain c := ofChar_eq_plain fun d hd => h d (by
    simp only [List.mem_cons, List.not_mem_nil, or_false] at hd ⊢
    tauto)
  have hdash : c ≠ '-' := h '-' (by simp)
  simp [isPlainChar, hplain, hdash]

theorem isPlainChar_of_isNameChar {c : Char} (h : Name.isNameChar c) : isPlainChar c := by
  apply isPlainChar_of_ne
  intro d hd
  have hnone : ['(', ')', '<', '>', ',', '-'].all (fun d => Name.isNameChar d = false) = true := by
    decide
  exact Name.ne_of_isNameChar h (of_decide_eq_true (List.all_eq_true.mp hnone d hd))

theorem isPlainChar_of_isBlankChar {c : Char} (h : Text.isBlankChar c) : isPlainChar c := by
  apply isPlainChar_of_ne
  rintro d hd rfl
  have hnone : ['(', ')', '<', '>', ',', '-'].all (fun d => Text.isBlankChar d = false) = true := by
    decide
  have hblank := of_decide_eq_true (List.all_eq_true.mp hnone c hd)
  rw [hblank] at h
  cases h

theorem ofText_cons {c : Char} {rest : List Char} (h : c ≠ '-' ∨ rest.head? ≠ some '>') :
    ofText (c :: rest) = ofChar c :: ofText rest := by
  rw [ofText]
  rintro tail rfl rfl
  simp at h

theorem ofText_plain_append {front : List Char} (h : ∀ c ∈ front, isPlainChar c)
    (rest : List Char) : ofText (front ++ rest) = front.map plain ++ ofText rest := by
  induction front with
  | nil => rfl
  | cons c front ih =>
    have hc := h c List.mem_cons_self
    simp only [isPlainChar, Bool.and_eq_true, decide_eq_true_eq, bne_iff_ne] at hc
    rw [List.cons_append, ofText_cons (.inl hc.2), hc.1,
      ih fun d hd => h d (List.mem_cons_of_mem _ hd)]
    rfl

theorem isPlainChar_of_isBlank {characters : List Char} (h : Text.isBlank characters) :
    ∀ c ∈ characters, isPlainChar c :=
  fun c hc => isPlainChar_of_isBlankChar (List.all_eq_true.mp h c hc)

theorem isPlainChar_of_isQualified {name : List Char} (h : Name.isQualified name) :
    ∀ c ∈ name, isPlainChar c :=
  fun c hc => isPlainChar_of_isNameChar (Name.isNameChar_of_mem h c hc)

theorem isPlainChar_append {front rest : List Char} (hfront : ∀ c ∈ front, isPlainChar c)
    (hrest : ∀ c ∈ rest, isPlainChar c) : ∀ c ∈ front ++ rest, isPlainChar c := by
  intro c hc
  rcases List.mem_append.mp hc with hc | hc
  · exact hfront c hc
  · exact hrest c hc

theorem ofText_plain {front : List Char} (h : ∀ c ∈ front, isPlainChar c) :
    ofText front = front.map plain := by
  have happend := ofText_plain_append h []
  rwa [List.append_nil, ofText, List.append_nil] at happend

theorem not_dash_of_isPlainChar {characters : List Char} (h : ∀ c ∈ characters, isPlainChar c) :
    '-' ∉ characters := by
  intro hmem
  exact absurd (h '-' hmem) (by decide)

theorem whole_of_isPlainChar {characters : List Char} (h : ∀ c ∈ characters, isPlainChar c) :
    characters.getLast? ≠ some '-' :=
  fun hlast => not_dash_of_isPlainChar h (List.mem_of_getLast? hlast)

theorem ofText_blank_append {front : List Char} (h : Text.isBlank front) (rest : List Char) :
    ofText (front ++ rest) = front.map plain ++ ofText rest :=
  ofText_plain_append (isPlainChar_of_isBlank h) rest

theorem ofText_blank {front : List Char} (h : Text.isBlank front) :
    ofText front = front.map plain :=
  ofText_plain (isPlainChar_of_isBlank h)

theorem isBlank_of_mem_map_plain {front : List Char} (h : Text.isBlank front) :
    ∀ x ∈ front.map plain, isBlank x := by
  intro x hx
  obtain ⟨c, hc, rfl⟩ := List.mem_map.mp hx
  exact List.all_eq_true.mp h c hc

/-- A cut in a text that does not part an arrow is a cut in its lexemes. -/
theorem ofText_append_of_ne {front rest : List Char}
    (h : front.getLast? ≠ some '-' ∨ rest.head? ≠ some '>') :
    ofText (front ++ rest) = ofText front ++ ofText rest := by
  fun_induction ofText front with
  | case1 => rfl
  | case2 front ih =>
    rw [List.cons_append, List.cons_append, ofText, ih, List.cons_append]
    refine h.imp_left fun hne hlast => hne ?_
    rw [List.getLast?_cons, List.getLast?_cons, hlast]
    rfl
  | case3 c front hc ih =>
    have hfront : front.getLast? ≠ some '-' ∨ rest.head? ≠ some '>' := by
      refine h.imp_left fun hne hlast => hne ?_
      rw [List.getLast?_cons, hlast]
      rfl
    rw [List.cons_append, ofText_cons, ih hfront, List.cons_append]
    cases front with
    | nil =>
      refine h.imp_left fun hne hdash => hne ?_
      rw [hdash]
      rfl
    | cons d front =>
      by_cases hdash : c = '-'
      · right
        intro hhead
        exact hc front hdash (by simpa using hhead)
      · exact .inl hdash

theorem ofText_append {front : List Char} (h : front.getLast? ≠ some '-') (rest : List Char) :
    ofText (front ++ rest) = ofText front ++ ofText rest :=
  ofText_append_of_ne (.inl h)

theorem ofText_append_cons (front : List Char) {c : Char} (hc : c ≠ '>') (rest : List Char) :
    ofText (front ++ c :: rest) = ofText front ++ ofText (c :: rest) :=
  ofText_append_of_ne (.inr fun hhead => hc (Option.some.inj hhead))

theorem canonical_ofText (cs : List Char) : Canonical (ofText cs) :=
  congrArg ofText (text_ofText cs)

theorem arrow_mem_ofText_iff {cs : List Char} : arrow ∈ ofText cs ↔ ['-', '>'] <:+: cs := by
  fun_induction ofText cs with
  | case1 => simp
  | case2 cs ih => simp [List.infix_cons_iff]
  | case3 c cs hc ih =>
    have hne : arrow ≠ ofChar c := by
      unfold ofChar
      repeat' split
      all_goals simp
    rw [List.mem_cons, or_iff_right hne, ih, List.infix_cons_iff]
    constructor
    · exact .inr
    · rintro (⟨rest, hrest⟩ | h)
      · cases hrest
        exact absurd rfl (hc rest rfl)
      · exact h

theorem canonical_arrow_cons {rest : List Lexeme} :
    Canonical (arrow :: rest) ↔ Canonical rest := by
  unfold Canonical
  rw [text_cons, chars, List.cons_append, List.cons_append, List.nil_append, ofText,
    List.cons_eq_cons, eq_self, true_and]

theorem canonical_cons {x : Lexeme} {c : Char} {rest : List Lexeme} (hx : x.chars = [c]) :
    Canonical (x :: rest) ↔
      (c ≠ '-' ∨ (text rest).head? ≠ some '>') ∧ ofChar c = x ∧ Canonical rest := by
  unfold Canonical
  rw [text_cons, hx, List.singleton_append]
  constructor
  · intro h
    by_cases harrow : c ≠ '-' ∨ (text rest).head? ≠ some '>'
    · rw [ofText_cons harrow] at h
      exact ⟨harrow, List.cons_eq_cons.mp h⟩
    · rw [not_or, not_not, not_not] at harrow
      obtain ⟨rfl, hhead⟩ := harrow
      obtain ⟨tail, htail⟩ := List.head?_eq_some_iff.mp hhead
      rw [htail, ofText] at h
      cases h
      cases hx
  · rintro ⟨harrow, hchar, hrest⟩
    rw [ofText_cons harrow, hchar, hrest]

theorem chars_eq_singleton {x : Lexeme} (h : x ≠ arrow) : ∃ c, x.chars = [c] := by
  cases x with
  | arrow => exact absurd rfl h
  | opener bracket => exact ⟨_, rfl⟩
  | closer bracket => exact ⟨_, rfl⟩
  | comma => exact ⟨_, rfl⟩
  | plain c => exact ⟨_, rfl⟩

/-- A part of canonical lexemes is canonical. -/
theorem canonical_append {front rest : List Lexeme} (h : Canonical (front ++ rest)) :
    Canonical front ∧ Canonical rest := by
  induction front with
  | nil => exact ⟨rfl, h⟩
  | cons x front ih =>
    by_cases hx : x = arrow
    · subst hx
      rw [List.cons_append, canonical_arrow_cons] at h
      rw [canonical_arrow_cons]
      exact ih h
    · obtain ⟨c, hc⟩ := chars_eq_singleton hx
      rw [List.cons_append, canonical_cons hc] at h
      obtain ⟨harrow, hchar, hrest⟩ := h
      obtain ⟨hfront, hright⟩ := ih hrest
      refine ⟨(canonical_cons hc).mpr ⟨harrow.imp_right ?_, hchar, hfront⟩, hright⟩
      intro hhead hgreater
      apply hhead
      rw [text_append, List.head?_append, hgreater]
      rfl

theorem Canonical.of_infix {part lexemes : List Lexeme} (h : Canonical lexemes)
    (hpart : part <:+: lexemes) : Canonical part := by
  obtain ⟨front, rest, rfl⟩ := hpart
  exact (canonical_append (canonical_append h).1).2

/-- A cut in the lexemes of a text is a cut in the text. -/
theorem exists_texts {characters : List Char} {x : Lexeme} {before after : List Lexeme}
    (h : ofText characters = before ++ x :: after) :
    ∃ front rest, characters = front ++ x.chars ++ rest ∧ before = ofText front ∧
      after = ofText rest := by
  have hcanonical : Canonical (before ++ x :: after) := h ▸ canonical_ofText characters
  obtain ⟨hbefore, htail⟩ := canonical_append hcanonical
  have hafter : Canonical after := htail.of_infix (List.suffix_cons x after).isInfix
  have htext := congrArg text h
  rw [text_ofText, text_append, text_cons, ← List.append_assoc] at htext
  exact ⟨text before, text after, htext, hbefore.symm, hafter.symm⟩

theorem isInfix_text {part lexemes : List Lexeme} (h : part <:+: lexemes) :
    text part <:+: text lexemes := by
  obtain ⟨front, rest, rfl⟩ := h
  exact ⟨text front, text rest, by rw [text_append, text_append]⟩

/-- In canonical lexemes every arrow of the text is an arrow lexeme. -/
theorem Canonical.arrow_mem {part lexemes : List Lexeme} (h : Canonical lexemes)
    (hpart : part <:+: lexemes) (harrow : ['-', '>'] <:+: text part) : arrow ∈ lexemes := by
  rw [← h, arrow_mem_ofText_iff]
  exact harrow.trans (isInfix_text hpart)

theorem text_intercalate (parts : List (List Lexeme)) :
    text ([comma].intercalate parts) = [','].intercalate (parts.map text) := by
  induction parts with
  | nil => rfl
  | cons part parts ih =>
    cases parts with
    | nil => simp [List.intercalate_singleton]
    | cons next parts =>
      rw [List.intercalate_cons_cons, List.map_cons, List.map_cons, List.intercalate_cons_cons,
        text_append, text_append, ih]
      rfl

end HolderInjection.Lexeme
