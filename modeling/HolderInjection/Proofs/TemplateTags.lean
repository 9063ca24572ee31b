import HolderInjection.Proofs.NameCharacters
import HolderInjection.Proofs.TrimmedText
import HolderInjection.Template.Parser

/-!
# Words and block tags

A text is cut into words by blanks of whatever kind and number. The tag of a choice names a value
between blanks. The tag of a loop is four words, the first before a space and the last at the end.
-/

namespace HolderInjection

namespace Text

/-- Whether a text is one word. -/
def IsWord (text : List Char) : Prop :=
  text ≠ [] ∧ ∀ c ∈ text, ¬isBlankChar c

/-- A blank parts the words before it from those after it. -/
theorem words_append_cons {c : Char} (hc : isBlankChar c) (front rest : List Char) :
    words (front ++ c :: rest) = words front ++ words rest := by
  unfold words
  rw [pieces_append_cons hc, List.filter_append]

theorem words_gap_append {gap : List Char} (hgap : isBlank gap) (text : List Char) :
    words (gap ++ text) = words text := by
  induction gap with
  | nil => rfl
  | cons c gap ih =>
    rw [isBlank, List.all_cons, Bool.and_eq_true] at hgap
    exact (words_append_cons hgap.1 [] (gap ++ text)).trans (ih hgap.2)

theorem IsWord.words_eq {word : List Char} (h : IsWord word) : words word = [word] := by
  rw [words, pieces_eq_singleton h.2, List.filter_cons_of_pos (by simpa using h.1)]
  rfl

/-- A word ends at a blank or at the end of the text. -/
theorem IsWord.words_append {word rest : List Char} (h : IsWord word)
    (hrest : ∀ c ∈ rest.head?, isBlankChar c) : words (word ++ rest) = word :: words rest := by
  cases rest with
  | nil =>
    rw [List.append_nil, h.words_eq]
    rfl
  | cons c rest =>
    have hc : isBlankChar c := hrest c rfl
    rw [words_append_cons hc, h.words_eq, ← List.nil_append (c :: rest), words_append_cons hc]
    rfl

theorem words_of_isBlank {text : List Char} (h : isBlank text) : words text = [] := by
  rw [← List.append_nil text, words_gap_append h]
  rfl

/-- Text that is not blank has a first word. -/
theorem exists_word {text : List Char} (h : ¬isBlank text) :
    ∃ gap word rest, text = gap ++ word ++ rest ∧ isBlank gap ∧ IsWord word ∧
      ∀ c ∈ rest.head?, isBlankChar c := by
  induction text with
  | nil => exact absurd rfl h
  | cons c text ih =>
    by_cases hc : isBlankChar c
    · have htext : ¬isBlank text := by
        intro htext
        exact h (by rw [isBlank, List.all_cons, hc]; exact htext)
      obtain ⟨gap, word, rest, rfl, hgap, hword, hrest⟩ := ih htext
      exact ⟨c :: gap, word, rest, rfl, by rw [isBlank, List.all_cons, hc]; exact hgap, hword,
        hrest⟩
    · refine ⟨[], c :: text.takeWhile (!isBlankChar ·), text.dropWhile (!isBlankChar ·), ?_, rfl,
        ⟨List.cons_ne_nil _ _, ?_⟩, ?_⟩
      · rw [List.nil_append, List.cons_append, List.takeWhile_append_dropWhile]
      · intro d hd
        rcases List.mem_cons.mp hd with rfl | hd
        · exact hc
        · simpa using List.all_eq_true.mp List.all_takeWhile d hd
      · intro d hd
        simpa using not_of_mem_head?_dropWhile d hd

/-- The first word of a text stands behind blanks and before the others. -/
theorem exists_of_words_eq_cons {text word : List Char} {others : List (List Char)}
    (h : words text = word :: others) :
    ∃ gap rest, text = gap ++ word ++ rest ∧ isBlank gap ∧ IsWord word ∧
      (∀ c ∈ rest.head?, isBlankChar c) ∧ words rest = others := by
  have htext : ¬isBlank text := by
    intro hblank
    rw [words_of_isBlank hblank] at h
    cases h
  obtain ⟨gap, first, rest, rfl, hgap, hfirst, hrest⟩ := exists_word htext
  rw [List.append_assoc, words_gap_append hgap, hfirst.words_append hrest] at h
  obtain ⟨rfl, hothers⟩ := List.cons_eq_cons.mp h
  exact ⟨gap, rest, rfl, hgap, hfirst, hrest, hothers⟩

theorem isBlank_of_words_eq_nil {text : List Char} (h : words text = []) : isBlank text := by
  by_contra htext
  obtain ⟨gap, word, rest, rfl, hgap, hword, hrest⟩ := exists_word htext
  rw [List.append_assoc, words_gap_append hgap, hword.words_append hrest] at h
  cases h

theorem IsWord.gap_ne_nil {gap word rest : List Char} (h : IsWord word)
    (hblank : ∀ c ∈ (gap ++ word ++ rest).head?, isBlankChar c) : gap ≠ [] := by
  rintro rfl
  obtain ⟨c, word, rfl⟩ := List.exists_cons_of_ne_nil h.1
  exact h.2 c List.mem_cons_self (hblank c rfl)

/-- A text that ends with a word has no blanks behind it. -/
theorem IsWord.eq_nil_of_suffix {word front tail : List Char} (h : IsWord word)
    (htail : isBlank tail) (hsuffix : word <:+ front ++ tail) : tail = [] := by
  obtain ⟨before, hbefore⟩ := hsuffix
  have hlast := congrArg List.getLast? hbefore
  rw [List.getLast?_append_of_ne_nil _ h.1] at hlast
  by_contra hne
  rw [List.getLast?_append_of_ne_nil _ hne] at hlast
  have hmem := List.getLast?_eq_some_getLast hne
  have hword := List.mem_of_mem_getLast? (hlast.trans hmem)
  exact h.2 _ hword (List.all_eq_true.mp htail _ (List.getLast_mem hne))

end Text

namespace Template

open Text (IsWord)

theorem not_isBlankChar_of_isNamePart {c : Char} (h : isNamePart c) : ¬Text.isBlankChar c := by
  intro hblank
  have hpart : (!isNamePart (Char.ofNat c.toNat)) = true :=
    Text.of_inRanges (p := fun n => !isNamePart (Char.ofNat n)) (by decide +kernel) hblank
  rw [Char.ofNat_toNat, h] at hpart
  cases hpart

theorem isWord_of_isName {name : List Char} (h : isName name) : IsWord name := by
  cases name with
  | nil => cases h
  | cons c rest =>
    obtain ⟨hstart, hrest⟩ := Bool.and_eq_true_iff.mp h
    refine ⟨List.cons_ne_nil c rest, fun d hd => not_isBlankChar_of_isNamePart ?_⟩
    rcases List.mem_cons.mp hd with rfl | hd
    · unfold isNameStart at hstart
      unfold isNamePart
      rcases Bool.or_eq_true_iff.mp hstart with hstart | hstart
      · simp [Char.isAlphanum, hstart]
      · simp [hstart]
    · exact List.all_eq_true.mp hrest d hd

/-- Whether a tag opens a choice by a condition. -/
def IsChoice (tag condition : List Char) : Prop :=
  ∃ rest, tag = "if ".toList ++ rest ∧ Text.trim rest = condition ∧ isName condition

/-- Whether a tag opens a loop with an item over a list. -/
def IsLoop (tag item items : List Char) : Prop :=
  isName item ∧ isName items ∧ "for ".toList <+: tag ∧
    ∃ first second third, (first ≠ [] ∧ Text.isBlank first) ∧ (second ≠ [] ∧ Text.isBlank second) ∧
      (third ≠ [] ∧ Text.isBlank third) ∧
      tag = "for".toList ++ first ++ item ++ second ++ "in".toList ++ third ++ items

theorem IsChoice.words_eq {tag condition : List Char} (h : IsChoice tag condition) :
    Text.words tag = ["if".toList, condition] := by
  obtain ⟨rest, rfl, rfl, hname⟩ := h
  obtain ⟨front, tail, hsplit, hfront, htail⟩ := Text.exists_trimWhile Text.isBlankChar rest
  have hword : IsWord (Text.trimWhile Text.isBlankChar rest) := isWord_of_isName hname
  have hif : IsWord "if".toList := isWord_of_isName (by decide)
  change Text.words ("if".toList ++ ' ' :: rest) = ["if".toList, Text.trimWhile _ rest]
  rw [Text.words_append_cons (by decide), hif.words_eq]
  conv_lhs => rw [hsplit]
  rw [List.append_assoc, Text.words_gap_append (List.all_eq_true.mpr hfront),
    hword.words_append (fun c hc => htail c (List.mem_of_mem_head? hc)),
    Text.words_of_isBlank (List.all_eq_true.mpr htail)]
  rfl

/-- A gap of blanks ends the word before it. -/
theorem words_append_gap {word gap rest : List Char} (hword : IsWord word)
    (hgap : gap ≠ [] ∧ Text.isBlank gap) :
    Text.words (word ++ gap ++ rest) = word :: Text.words rest := by
  rw [List.append_assoc, hword.words_append, Text.words_gap_append hgap.2]
  obtain ⟨c, gap, rfl⟩ := List.exists_cons_of_ne_nil hgap.1
  rintro d hd
  cases hd
  exact List.all_eq_true.mp hgap.2 c List.mem_cons_self

theorem IsLoop.words_eq {tag item items : List Char} (h : IsLoop tag item items) :
    Text.words tag = ["for".toList, item, "in".toList, items] := by
  obtain ⟨hitem, hitems, -, first, second, third, hfirst, hsecond, hthird, rfl⟩ := h
  have hfor : IsWord "for".toList := isWord_of_isName (by decide)
  have hin : IsWord "in".toList := isWord_of_isName (by decide)
  simp only [List.append_assoc]
  rw [← List.append_assoc, words_append_gap hfor hfirst, ← List.append_assoc,
    words_append_gap (isWord_of_isName hitem) hsecond, ← List.append_assoc,
    words_append_gap hin hthird, (isWord_of_isName hitems).words_eq]

/-- The names of a loop are found if the tag has its form. -/
theorem loopNames?_eq_some_iff {tag item items : List Char} (hword : "for ".toList <+: tag) :
    Directive.loopNames? tag = some (item, items) ↔ IsLoop tag item items := by
  constructor
  · intro h
    unfold Directive.loopNames? at h
    split at h
    case h_2 => cases h
    case h_1 word item' isWord items' hwords =>
    split at h
    case isFalse => cases h
    case isTrue hnames =>
    obtain ⟨rfl, hitem, hitems, hsuffix⟩ := hnames
    cases h
    refine ⟨hitem, hitems, hword, ?_⟩
    -- Each word gives back the gap before it, and the last one ends the tag.
    obtain ⟨text, rfl⟩ := hword
    have hfor : IsWord "for".toList := isWord_of_isName (by decide)
    have hin : IsWord "in".toList := isWord_of_isName (by decide)
    change Text.words ("for".toList ++ ' ' :: text) = _ at hwords
    rw [Text.words_append_cons (by decide), hfor.words_eq] at hwords
    obtain ⟨-, htext⟩ := List.cons_eq_cons.mp hwords
    obtain ⟨first, rest, rfl, hfirst, -, hafter, hrest⟩ := Text.exists_of_words_eq_cons htext
    obtain ⟨second, rest, rfl, hsecond, -, hafter', hrest⟩ := Text.exists_of_words_eq_cons hrest
    obtain ⟨third, rest, rfl, hthird, hword, -, hrest⟩ := Text.exists_of_words_eq_cons hrest
    have hsuffix := List.isSuffixOf_iff_suffix.mp hsuffix
    simp only [← List.append_assoc] at hsuffix
    have hend := hword.eq_nil_of_suffix (Text.isBlank_of_words_eq_nil hrest) hsuffix
    refine ⟨' ' :: first, second, third, ⟨List.cons_ne_nil _ _, ?_⟩,
      ⟨hin.gap_ne_nil hafter, hsecond⟩, ⟨hword.gap_ne_nil hafter', hthird⟩, ?_⟩
    · exact hfirst
    · rw [hend]
      simp
  · intro h
    have hwords := h.words_eq
    obtain ⟨hitem, hitems, -, first, second, third, -, -, -, htag⟩ := h
    have hsuffix : items <:+ tag := ⟨_, htag.symm⟩
    unfold Directive.loopNames?
    rw [hwords]
    dsimp only
    rw [if_pos ⟨rfl, hitem, hitems, List.isSuffixOf_iff_suffix.mpr hsuffix⟩]

namespace Directive

/-- What a block tag has to read for each of the directives. -/
inductive Spelled : Directive → List Char → Prop where
  | choice {tag condition : List Char} (h : IsChoice tag condition) :
      Spelled (.choice (String.ofList condition)) tag
  | otherwise : Spelled .otherwise "else".toList
  | endChoice : Spelled .endChoice "endif".toList
  | loop {tag item items : List Char} (h : IsLoop tag item items) :
      Spelled (.loop (String.ofList item) (String.ofList items)) tag
  | endLoop : Spelled .endLoop "endfor".toList

theorem spelled_of_read {tag : List Char} {directive : Directive}
    (h : read tag = .ok directive) : Spelled directive tag := by
  unfold read at h
  split at h
  case isTrue htag =>
    cases h
    exact htag ▸ .otherwise
  split at h
  case isTrue htag =>
    cases h
    exact htag ▸ .endChoice
  split at h
  case isTrue htag =>
    cases h
    exact htag ▸ .endLoop
  split at h
  case isTrue htag =>
    obtain ⟨rest, rfl⟩ := List.isPrefixOf_iff_prefix.mp htag
    rw [List.drop_left] at h
    dsimp only at h
    split at h
    case isTrue hname =>
      cases h
      exact .choice ⟨rest, rfl, rfl, hname⟩
    case isFalse => cases h
  split at h
  case isTrue htag =>
    split at h
    case h_1 item items hnames =>
      cases h
      exact .loop ((loopNames?_eq_some_iff (List.isPrefixOf_iff_prefix.mp htag)).mp hnames)
    case h_2 => cases h
  case isFalse => cases h

theorem read_of_isChoice {tag condition : List Char} (h : IsChoice tag condition) :
    read tag = .ok (.choice (String.ofList condition)) := by
  obtain ⟨rest, rfl, rfl, hname⟩ := h
  have hword : choiceWord.isPrefixOf ("if ".toList ++ rest) :=
    List.isPrefixOf_iff_prefix.mpr ⟨rest, rfl⟩
  have hdrop : ("if ".toList ++ rest).drop choiceWord.length = rest := List.drop_left
  unfold read
  rw [if_neg (by simp), if_neg (by simp), if_neg (by simp), if_pos hword]
  dsimp only
  rw [hdrop, if_pos hname]

theorem read_of_isLoop {tag item items : List Char} (h : IsLoop tag item items) :
    read tag = .ok (.loop (String.ofList item) (String.ofList items)) := by
  have hword := h.2.2.1
  have hnames := (loopNames?_eq_some_iff hword).mpr h
  obtain ⟨rest, rfl⟩ := hword
  have hloop : loopWord.isPrefixOf ("for ".toList ++ rest) :=
    List.isPrefixOf_iff_prefix.mpr ⟨rest, rfl⟩
  unfold read
  rw [if_neg (by simp), if_neg (by simp), if_neg (by simp), if_neg, if_pos hloop, hnames]
  simp [choiceWord]

/-- A block tag is read as a directive exactly if it spells it. -/
theorem read_eq_ok_iff {tag : List Char} {directive : Directive} :
    read tag = .ok directive ↔ Spelled directive tag := by
  refine ⟨spelled_of_read, fun h => ?_⟩
  cases h with
  | choice h => exact read_of_isChoice h
  | loop h => exact read_of_isLoop h
  | otherwise => rfl
  | endChoice => rfl
  | endLoop => rfl

/-- A tag spells one directive at most. -/
theorem Spelled.unique {tag : List Char} {directive other : Directive}
    (h : Spelled directive tag) (hother : Spelled other tag) : directive = other := by
  have hread := read_eq_ok_iff.mpr hother
  rw [read_eq_ok_iff.mpr h] at hread
  exact Except.ok.inj hread

end Directive

end Template

end HolderInjection
