import Mathlib.Data.List.TakeWhile
import HolderInjection.Proofs.CanonicalText

/-!
# Erased names

The erased name of a signature is cut out of its text. Before the type arguments there is a name
with at most a question mark behind it, or a parenthesis: the erased name is the last segment of the
class of the type in the first case, and in the second it depends on the spelling alone.
-/

namespace HolderInjection

namespace Name

theorem lastSegment_append (front : List Char) {segment : List Char} (h : '.' ∉ segment) :
    lastSegment (front ++ '.' :: segment) = segment := by
  have hall : ∀ c ∈ segment.reverse, (c != '.') = true := by
    intro c hc
    rw [bne_iff_ne]
    rintro rfl
    exact h (List.mem_reverse.mp hc)
  have hreverse : (front ++ '.' :: segment).reverse = segment.reverse ++ '.' :: front.reverse := by
    simp
  unfold lastSegment
  rw [hreverse, List.takeWhile_append_of_pos hall, List.takeWhile_cons_of_neg (by simp),
    List.append_nil, List.reverse_reverse]

theorem dot_not_mem_lastSegment (name : List Char) : '.' ∉ lastSegment name := by
  intro h
  have hdot := List.mem_takeWhile_imp (List.mem_reverse.mp h)
  simp at hdot

/-- The last segment is all of the name, or it stands behind a dot. -/
theorem eq_or_suffix_lastSegment (name : List Char) :
    lastSegment name = name ∨ '.' :: lastSegment name <:+ name := by
  by_cases h : '.' ∈ name.reverse
  · right
    obtain ⟨segment, front, hsplit, hsegment⟩ := List.eq_append_cons_of_mem h
    have hname : name = front.reverse ++ '.' :: segment.reverse := by
      rw [← List.reverse_reverse name, hsplit]
      simp
    have hlast : lastSegment name = segment.reverse := by
      rw [hname]
      exact lastSegment_append _ (by simpa using hsegment)
    rw [hlast]
    exact ⟨front.reverse, hname.symm⟩
  · left
    have hall : ∀ c ∈ name.reverse, (c != '.') = true := by
      intro c hc
      rw [bne_iff_ne]
      rintro rfl
      exact h hc
    unfold lastSegment
    rw [List.takeWhile_eq_self_iff.mpr hall, List.reverse_reverse]

end Name

namespace TypeExpr

/-- The text of a signature before its type arguments. -/
def frontText (signature : String) : List Char :=
  Text.trim ((Text.trim signature.toList).takeWhile (· != '<'))

/-- Whether no blank stands before a question mark that ends the text before the type arguments. -/
def HasAttachedMark (signature : String) : Prop :=
  (frontText signature).getLast? = some '?' →
    ∀ c ∈ (frontText signature).dropLast.getLast?, ¬Text.isBlankChar c

/-- The name of the class of a type, for a simple or a generic type. -/
def className? : TypeExpr → Option String
  | simple name => some name
  | generic base _ => some base
  | _ => none

theorem erasedName_eq (signature : String) :
    erasedName signature =
      String.ofList (Name.lastSegment (dropQuestionMark (frontText signature))) :=
  rfl

theorem dropQuestionMark_name {name : List Char} (h : Name.isQualified name) :
    dropQuestionMark name = name := by
  unfold dropQuestionMark
  rw [if_neg]
  intro hlast
  exact absurd (Name.isNameChar_of_mem h '?' (List.mem_of_getLast? hlast)) (by decide)

theorem ne_angle_of_isPlainChar {c : Char} (h : Lexeme.isPlainChar c) : (c != '<') = true := by
  rw [bne_iff_ne]
  rintro rfl
  exact absurd h (by decide)

theorem not_mem_angle {before : List Char} (h : ∀ c ∈ before, Lexeme.isPlainChar c) :
    ∀ c ∈ before, (c != '<') = true :=
  fun c hc => ne_angle_of_isPlainChar (h c hc)

theorem trim_name_text {name : List Char} (h : Name.isQualified name) : Text.trim name = name := by
  apply Text.trimWhile_eq_self_of_forall
  exact fun c hc => Name.not_isBlankChar_of_isNameChar (Name.isNameChar_of_mem h c hc)

theorem dropWhile_front {front name : List Char} (rest : List Char) (hfront : Text.isBlank front)
    (hname : Name.isQualified name) :
    (front ++ name ++ rest).dropWhile Text.isBlankChar = name ++ rest := by
  rw [List.append_assoc, List.dropWhile_append_of_pos (List.all_eq_true.mp hfront),
    Text.dropWhile_eq_self_of_head? (Name.not_isBlankChar_of_mem_head? hname rest)]

theorem frontText_name {signature : String} {front name tail : List Char}
    (hsignature : signature.toList = front ++ name ++ tail) (hname : Name.isQualified name)
    (hfront : Text.isBlank front) (htail : Text.isBlank tail) : frontText signature = name := by
  have hplain := Lexeme.isPlainChar_of_isQualified hname
  unfold frontText
  rw [hsignature, Text.trim_pad hfront htail, trim_name_text hname,
    List.takeWhile_eq_self_iff.mpr (not_mem_angle hplain), trim_name_text hname]

theorem frontText_marked {signature : String} {front name gap tail : List Char}
    (hsignature : signature.toList = front ++ name ++ gap ++ '?' :: tail)
    (hname : Name.isQualified name) (hfront : Text.isBlank front) (hgap : Text.isBlank gap)
    (htail : Text.isBlank tail) : frontText signature = name ++ gap ++ ['?'] := by
  have hmark : ∀ c ∈ ['?'], Lexeme.isPlainChar c := List.all_eq_true.mp (by decide)
  have hplain : ∀ c ∈ name ++ gap ++ ['?'], Lexeme.isPlainChar c :=
    Lexeme.isPlainChar_append (Lexeme.isPlainChar_append (Lexeme.isPlainChar_of_isQualified hname)
      (Lexeme.isPlainChar_of_isBlank hgap)) hmark
  have htrim : Text.trim signature.toList = name ++ gap ++ ['?'] := by
    rw [hsignature, Text.trim, Text.trimWhile_append_cons (by decide),
      dropWhile_front gap hfront hname, Text.dropEndWhile_eq_nil (List.all_eq_true.mp htail)]
  have hagain : Text.trim (name ++ gap ++ ['?']) = name ++ gap ++ ['?'] := by
    rw [← htrim]
    exact Text.trimWhile_trimWhile _
  unfold frontText
  rw [htrim, List.takeWhile_eq_self_iff.mpr (not_mem_angle hplain), hagain]

theorem frontText_generic {signature : String} {front base gap rest : List Char}
    (hsignature : signature.toList = front ++ base ++ gap ++ '<' :: rest)
    (hbase : Name.isQualified base) (hfront : Text.isBlank front) (hgap : Text.isBlank gap) :
    frontText signature = base := by
  have hplain := Lexeme.isPlainChar_append (Lexeme.isPlainChar_of_isQualified hbase)
    (Lexeme.isPlainChar_of_isBlank hgap)
  have htrim : Text.trim signature.toList =
      base ++ gap ++ '<' :: Text.dropEndWhile Text.isBlankChar rest := by
    rw [hsignature, Text.trim, Text.trimWhile_append_cons (by decide),
      dropWhile_front gap hfront hbase]
  have hpad : Text.trim ([] ++ base ++ gap) = Text.trim base := Text.trim_pad rfl hgap
  unfold frontText
  rw [htrim, List.takeWhile_append_of_pos (not_mem_angle hplain),
    List.takeWhile_cons_of_neg (by decide), List.append_nil]
  exact hpad.trans (trim_name_text hbase)

/-- A parenthesis that is the first bracket stands before the type arguments. -/
theorem parenthesis_mem_frontText {signature : String} {before rest : List Char}
    (hsignature : signature.toList = before ++ '(' :: rest)
    (hbefore : ∀ c ∈ before, Lexeme.isPlainChar c) : '(' ∈ frontText signature := by
  have hkept : ∀ c ∈ before.dropWhile Text.isBlankChar, Lexeme.isPlainChar c :=
    fun c hc => hbefore c ((List.dropWhile_suffix _).subset hc)
  have htrim : Text.trim signature.toList =
      before.dropWhile Text.isBlankChar ++ '(' :: Text.dropEndWhile Text.isBlankChar rest := by
    rw [hsignature, Text.trim, Text.trimWhile_append_cons (by decide)]
  unfold frontText
  apply Text.mem_trimWhile _ (by decide)
  rw [htrim, List.takeWhile_append_of_pos (not_mem_angle hkept),
    List.takeWhile_cons_of_pos (by decide)]
  simp

theorem erasedName_of_frontText {signature name : String} (hname : Name.isQualified name.toList)
    (hfront : frontText signature = name.toList) : erasedName signature = Name.simple name := by
  rw [erasedName_eq, hfront, dropQuestionMark_name hname]
  rfl

/-- A question mark right behind a name is dropped from it. -/
theorem erasedName_of_marked {signature name : String} {gap : List Char} (hgap : Text.isBlank gap)
    (hfront : frontText signature = name.toList ++ gap ++ ['?'])
    (hmark : HasAttachedMark signature) :
    erasedName signature = Name.simple name := by
  unfold HasAttachedMark at hmark
  rw [hfront, List.getLast?_concat, List.dropLast_concat] at hmark
  have hnil : gap = [] := by
    by_contra hne
    rw [List.getLast?_append_of_ne_nil _ hne, List.getLast?_eq_some_getLast hne] at hmark
    exact hmark rfl _ rfl (List.all_eq_true.mp hgap _ (List.getLast_mem hne))
  rw [erasedName_eq, hfront, hnil, List.append_nil, dropQuestionMark, List.getLast?_concat,
    if_pos rfl, List.dropLast_concat]
  rfl

/-- Without a parenthesis before the type arguments, a primary is generic or a name. -/
theorem erasedName_of_primary {signature : String} {text after : List Char} {type : TypeExpr}
    (hprimary : Derives .primary text type) (hsignature : signature.toList = text ++ after)
    (hfront : '(' ∉ frontText signature) :
    (∃ base args, type = generic base args ∧ erasedName signature = Name.simple base) ∨
      ∃ name front gap, type = simple name ∧ text = front ++ name.toList ++ gap ∧
        Name.isQualified name.toList ∧ Text.isBlank front ∧ Text.isBlank gap := by
  cases hprimary with
  | @name name front gap hname hfrontBlank hgap =>
    exact .inr ⟨name, front, gap, rfl, rfl, hname, hfrontBlank, hgap⟩
  | @generic base front gap content tail args hbase hfrontBlank hgap =>
    left
    have hsplit : signature.toList = front ++ base.toList ++ gap ++
        '<' :: (content ++ '>' :: tail ++ after) := by
      rw [hsignature]
      simp
    have hbaseFront := frontText_generic hsplit hbase hfrontBlank hgap
    exact ⟨base, _, rfl, erasedName_of_frontText hbase hbaseFront⟩
  | @enclosed front inner tail _ hfrontBlank =>
    have hsplit : signature.toList = front ++ '(' :: (inner ++ ')' :: tail ++ after) := by
      rw [hsignature]
      simp
    exact absurd (parenthesis_mem_frontText hsplit (Lexeme.isPlainChar_of_isBlank hfrontBlank))
      hfront

/-- Without a parenthesis before the type arguments, the erased name is the one of the class. -/
theorem exists_className?_of_parse {signature : String} {type : TypeExpr}
    (hparse : parse signature = .ok type) (hfront : '(' ∉ frontText signature)
    (hmark : HasAttachedMark signature) :
    ∃ name, type.nonNull.className? = some name ∧ erasedName signature = Name.simple name := by
  have hderives := derives_of_parse hparse
  generalize htext : signature.toList = text at hderives
  cases hderives with
  | plain hprimary =>
    have htextNil : signature.toList = text ++ [] := by rw [htext, List.append_nil]
    rcases erasedName_of_primary hprimary htextNil hfront with
      ⟨base, args, rfl, herased⟩ | ⟨name, front, gap, rfl, rfl, hname, hfrontBlank, hgap⟩
    · exact ⟨base, rfl, herased⟩
    · exact ⟨name, rfl, erasedName_of_frontText hname (frontText_name htext hname hfrontBlank hgap)⟩
  | @nullable text tail inner hprimary _ htail =>
    rcases erasedName_of_primary hprimary htext hfront with
      ⟨base, args, rfl, herased⟩ | ⟨name, front, gap, rfl, rfl, hname, hfrontBlank, hgap⟩
    · exact ⟨base, rfl, herased⟩
    · have hmarked := frontText_marked htext hname hfrontBlank hgap htail
      exact ⟨name, rfl, erasedName_of_marked hgap hmarked hmark⟩
  | @function suspending front space content gap result params value hfrontBlank hspace =>
    have hplain := Lexeme.isPlainChar_append (Lexeme.isPlainChar_append
      (Lexeme.isPlainChar_of_isBlank hfrontBlank) (isPlainChar_wordOf suspending))
      (Lexeme.isPlainChar_of_isBlank hspace)
    have hsplit : signature.toList = front ++ wordOf suspending ++ space ++
        '(' :: (content ++ ')' :: gap ++ '-' :: '>' :: result) := by
      rw [htext]
      simp
    exact absurd (parenthesis_mem_frontText hsplit hplain) hfront

/-- With a parenthesis before the type arguments, the erased name stands behind the last dot. -/
theorem erasedName_eq_iff_suffix {signature : String} {name : String}
    (hfront : '(' ∈ frontText signature) (hname : '(' ∉ (Name.simple name).toList) :
    erasedName signature = Name.simple name ↔
      '.' :: (Name.simple name).toList <:+ dropQuestionMark (frontText signature) := by
  have hmem : '(' ∈ dropQuestionMark (frontText signature) := by
    unfold dropQuestionMark
    split
    · rename_i hlast
      have hsplit := List.dropLast_append_getLast? _ hlast
      rw [← hsplit, List.mem_append, List.mem_singleton] at hfront
      exact hfront.resolve_right (by decide)
    · exact hfront
  rw [Name.simple, String.toList_ofList] at hname
  rw [erasedName_eq, Name.simple, String.toList_ofList, String.ofList_inj]
  constructor
  · intro hlast
    rcases Name.eq_or_suffix_lastSegment (dropQuestionMark (frontText signature)) with
      hall | hsuffix
    · rw [← hlast, hall] at hname
      exact absurd hmem hname
    · rwa [hlast] at hsuffix
  · rintro ⟨front, hsplit⟩
    rw [← hsplit]
    exact Name.lastSegment_append front (Name.dot_not_mem_lastSegment _)

end TypeExpr

end HolderInjection
