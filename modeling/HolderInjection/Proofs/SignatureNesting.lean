import HolderInjection.Proofs.BracketNesting
import HolderInjection.Proofs.SignatureGrammar
import HolderInjection.Proofs.SignatureLexemes

/-!
# Derived texts nest

The brackets of a text of the grammar are balanced, its commas stand inside brackets, and so do the
arrows of a primary. This is why the cuts of a signature find the tokens the grammar put there.
-/

namespace HolderInjection

open Lexeme (ofText plain arrow opener closer comma Balanced Guarded)

theorem getLast?_ne_of_not_mem {α : Type} {x : α} {front rest : List α} (hne : rest ≠ [])
    (h : x ∉ rest) : (front ++ rest).getLast? ≠ some x := by
  rw [List.getLast?_append_of_ne_nil front hne]
  exact fun hlast => h (List.mem_of_getLast? hlast)

theorem getLast?_append_ne {α : Type} {x : α} {front rest : List α}
    (hfront : front.getLast? ≠ some x) (hrest : rest.getLast? ≠ some x) :
    (front ++ rest).getLast? ≠ some x := by
  rw [List.getLast?_append]
  cases hlast : rest.getLast? with
  | none => exact hfront
  | some y => rwa [hlast] at hrest

namespace Lexeme

/-- A text that is balanced, has its commas inside brackets and does not end within an arrow. -/
structure Sealed (characters : List Char) : Prop where
  whole : characters.getLast? ≠ some '-'
  balanced : Balanced (ofText characters)
  guarded : Guarded comma [] (ofText characters)

theorem Balanced.plain_append (front : List Char) {rest : List Lexeme} (h : Balanced rest) :
    Balanced (front.map plain ++ rest) :=
  (Balanced.of_plain front).append h

theorem Guarded.plain_append {x : Lexeme} (hx : ∀ c, x ≠ plain c) (front : List Char)
    {rest : List Lexeme} (h : Guarded x [] rest) : Guarded x [] (front.map plain ++ rest) := by
  apply Guarded.append (.of_not_mem _) (Balanced.of_plain front) h
  intro hmem
  obtain ⟨c, -, hc⟩ := List.mem_map.mp hmem
  exact hx c hc.symm

theorem Guarded.plain {x : Lexeme} (hx : ∀ c, x ≠ plain c) (characters : List Char) :
    Guarded x [] (characters.map plain) := by
  have h : Guarded x [] (characters.map Lexeme.plain ++ []) :=
    .plain_append hx characters (.of_not_mem (by simp))
  rwa [List.append_nil] at h

/-- Text between brackets is read apart from the text around it. -/
theorem ofText_enclosed (bracket : Bracket) {front content : List Char} (rest : List Char)
    (hfront : ∀ c ∈ front, isPlainChar c) (hcontent : content.getLast? ≠ some '-') :
    ofText (front ++ bracket.opening :: content ++ bracket.closing :: rest) =
      front.map Lexeme.plain ++ opener bracket :: ofText content ++
        closer bracket :: ofText rest := by
  have hopen : bracket.opening ≠ '-' ∧ ofChar bracket.opening = opener bracket := by
    cases bracket <;> decide
  have hclose : bracket.closing ≠ '-' ∧ ofChar bracket.closing = closer bracket := by
    cases bracket <;> decide
  rw [List.append_assoc, ofText_plain_append hfront, List.cons_append, ofText_cons (.inl hopen.1),
    hopen.2, ofText_append hcontent, ofText_cons (.inl hclose.1), hclose.2]
  simp

theorem ofText_intercalate {texts : List (List Char)}
    (h : ∀ text ∈ texts, text.getLast? ≠ some '-') :
    ofText ([','].intercalate texts) = [comma].intercalate (texts.map ofText) := by
  induction texts with
  | nil => rfl
  | cons text texts ih =>
    have htext := h text List.mem_cons_self
    cases texts with
    | nil => simp [List.intercalate_singleton]
    | cons next texts =>
      have hrest := ih fun other hother => h other (List.mem_cons_of_mem _ hother)
      rw [List.intercalate_cons_cons, List.append_assoc, ofText_append htext, List.singleton_append,
        ofText_cons (.inl (by decide)), hrest]
      simp [List.intercalate_cons_cons, ofChar]

theorem Balanced.intercalate {items : List (List Lexeme)} (h : ∀ item ∈ items, Balanced item) :
    Balanced ([comma].intercalate items) := by
  induction items with
  | nil => rfl
  | cons item items ih =>
    have hitem := h item List.mem_cons_self
    cases items with
    | nil => rwa [List.intercalate_singleton]
    | cons next items =>
      rw [List.intercalate_cons_cons, List.append_assoc]
      exact hitem.append
        (.cons rfl (ih fun other hother => h other (List.mem_cons_of_mem _ hother)))

theorem whole_intercalate {texts : List (List Char)}
    (h : ∀ text ∈ texts, text.getLast? ≠ some '-') :
    ([','].intercalate texts).getLast? ≠ some '-' := by
  induction texts with
  | nil => simp [List.intercalate_nil]
  | cons text texts ih =>
    have htext := h text List.mem_cons_self
    cases texts with
    | nil => rwa [List.intercalate_singleton]
    | cons next texts =>
      rw [List.intercalate_cons_cons]
      apply getLast?_append_ne
      · exact getLast?_append_ne htext (by decide)
      · exact ih fun other hother => h other (List.mem_cons_of_mem _ hother)

theorem Sealed.of_plain {characters : List Char} (h : ∀ c ∈ characters, isPlainChar c) :
    Sealed characters where
  whole := whole_of_isPlainChar h
  balanced := by
    rw [ofText_plain h]
    exact .of_plain characters
  guarded := by
    rw [ofText_plain h]
    exact .plain (by simp) characters

theorem Sealed.append {front rest : List Char} (hfront : Sealed front) (hrest : Sealed rest) :
    Sealed (front ++ rest) where
  whole := getLast?_append_ne hfront.whole hrest.whole
  balanced := by
    rw [ofText_append hfront.whole]
    exact hfront.balanced.append hrest.balanced
  guarded := by
    rw [ofText_append hfront.whole]
    exact hfront.guarded.append hfront.balanced hrest.guarded

theorem Sealed.arrow_cons {rest : List Char} (h : Sealed rest) : Sealed ('-' :: '>' :: rest) where
  whole := by
    have harrow : ['-', '>'].getLast? ≠ some '-' := by decide
    exact getLast?_append_ne harrow h.whole
  balanced := by
    rw [ofText]
    exact .cons rfl h.balanced
  guarded := by
    rw [ofText]
    have harrow : Guarded comma [] [arrow] := .of_not_mem (by simp)
    exact harrow.append rfl h.guarded

/-- Commas inside a bracket are no longer outside all brackets. -/
theorem Sealed.enclosed (bracket : Bracket) {front content rest : List Char}
    (hfront : ∀ c ∈ front, isPlainChar c) (hcontent : content.getLast? ≠ some '-')
    (hbalanced : Balanced (ofText content)) (hrest : Sealed rest) :
    Sealed (front ++ bracket.opening :: content ++ bracket.closing :: rest) where
  whole := by
    have hclosing :
        (front ++ bracket.opening :: content ++ [bracket.closing]).getLast? ≠ some '-' :=
      getLast?_ne_of_not_mem (by simp) (by cases bracket <;> decide)
    have hlast := getLast?_append_ne hclosing hrest.whole
    simpa only [List.append_assoc, List.singleton_append] using hlast
  balanced := by
    rw [ofText_enclosed bracket rest hfront hcontent, List.append_assoc]
    exact .plain_append front (hbalanced.enclose hrest.balanced bracket)
  guarded := by
    rw [ofText_enclosed bracket rest hfront hcontent, List.append_assoc]
    exact .plain_append (by simp) front (Guarded.enclose rfl hbalanced hrest.guarded bracket)

theorem guarded_arrow_enclosed (bracket : Bracket) {front content rest : List Char}
    (hfront : ∀ c ∈ front, isPlainChar c) (hcontent : content.getLast? ≠ some '-')
    (hbalanced : Balanced (ofText content)) (hrest : Guarded arrow [] (ofText rest)) :
    Guarded arrow [] (ofText (front ++ bracket.opening :: content ++ bracket.closing :: rest)) := by
  rw [ofText_enclosed bracket rest hfront hcontent, List.append_assoc]
  exact .plain_append (by simp) front (Guarded.enclose rfl hbalanced hrest bracket)

theorem guarded_arrow_plain {characters : List Char} (h : ∀ c ∈ characters, isPlainChar c) :
    Guarded arrow [] (ofText characters) := by
  rw [ofText_plain h]
  exact .plain (by simp) characters

end Lexeme

namespace TypeExpr

open Lexeme (Sealed isPlainChar isPlainChar_append isPlainChar_of_isBlank
  isPlainChar_of_isQualified)

theorem ofText_listed {texts : List (List Char)} {content : List Char} (h : Listed texts content)
    (hsealed : ∀ text ∈ texts, Sealed text) :
    ∃ front tail, Text.isBlank front ∧ Text.isBlank tail ∧ content.getLast? ≠ some '-' ∧
      ofText content =
        front.map plain ++ [comma].intercalate (texts.map ofText) ++ tail.map plain := by
  obtain ⟨front, tail, hfront, htail, rfl⟩ := h
  have hwhole : ∀ text ∈ texts, text.getLast? ≠ some '-' :=
    fun text htext => (hsealed text htext).whole
  have hjoin := Lexeme.whole_intercalate hwhole
  have hfrontWhole := Lexeme.whole_of_isPlainChar (isPlainChar_of_isBlank hfront)
  have htailWhole := Lexeme.whole_of_isPlainChar (isPlainChar_of_isBlank htail)
  refine ⟨front, tail, hfront, htail, ?_, ?_⟩
  · exact getLast?_append_ne (getLast?_append_ne hfrontWhole hjoin) htailWhole
  · rw [List.append_assoc, Lexeme.ofText_blank_append hfront, Lexeme.ofText_append hjoin,
      Lexeme.ofText_intercalate hwhole, Lexeme.ofText_blank htail, List.append_assoc]

theorem balanced_listed {texts : List (List Char)} {content : List Char} (h : Listed texts content)
    (hsealed : ∀ text ∈ texts, Sealed text) : Balanced (ofText content) := by
  obtain ⟨front, tail, -, -, -, hcontent⟩ := ofText_listed h hsealed
  have hitems : ∀ item ∈ texts.map ofText, Balanced item := by
    intro item hitem
    obtain ⟨text, htext, rfl⟩ := List.mem_map.mp hitem
    exact (hsealed text htext).balanced
  rw [hcontent]
  exact ((Balanced.of_plain front).append (Balanced.intercalate hitems)).append (.of_plain tail)

theorem whole_listed {texts : List (List Char)} {content : List Char} (h : Listed texts content)
    (hsealed : ∀ text ∈ texts, Sealed text) : content.getLast? ≠ some '-' := by
  obtain ⟨-, -, -, -, hwhole, -⟩ := ofText_listed h hsealed
  exact hwhole

theorem sealed_fst {args : List (List Char × TypeExpr)} (h : ∀ arg ∈ args, Sealed arg.1) :
    ∀ text ∈ args.map (·.1), Sealed text := by
  intro text htext
  obtain ⟨arg, harg, rfl⟩ := List.mem_map.mp htext
  exact h arg harg

theorem isPlainChar_wordOf (suspending : Bool) : ∀ c ∈ wordOf suspending, isPlainChar c := by
  apply List.all_eq_true.mp
  cases suspending <;> decide

theorem isPlainChar_of_unitName {text : List Char}
    (h : String.ofList (Text.trim text) ∈ unitNames) : ∀ c ∈ text, isPlainChar c := by
  obtain ⟨front, tail, hsplit, hfront, htail⟩ := Text.exists_trimWhile Text.isBlankChar text
  have hnames : unitNames.all (fun name => name.toList.all isPlainChar) = true := by decide
  have hcore := List.all_eq_true.mp (List.all_eq_true.mp hnames _ h)
  rw [String.toList_ofList] at hcore
  rw [hsplit]
  exact isPlainChar_append (isPlainChar_append
    (fun c hc => Lexeme.isPlainChar_of_isBlankChar (hfront c hc)) hcore)
    fun c hc => Lexeme.isPlainChar_of_isBlankChar (htail c hc)

/-- Texts of the grammar nest, and the arrows of a primary stand inside brackets. -/
theorem Derives.nested {phrase : Phrase} {text : List Char} {type : TypeExpr}
    (h : Derives phrase text type) :
    Sealed text ∧ (phrase = .primary → Guarded arrow [] (ofText text)) := by
  induction h with
  | name hname hfront htail =>
    have hplain := isPlainChar_append (isPlainChar_append (isPlainChar_of_isBlank hfront)
      (isPlainChar_of_isQualified hname)) (isPlainChar_of_isBlank htail)
    exact ⟨.of_plain hplain, fun _ => Lexeme.guarded_arrow_plain hplain⟩
  | generic hbase hfront hgap htail _ hlisted _ _ ih =>
    have hargs := sealed_fst fun arg harg => (ih arg harg).1
    have hplain := isPlainChar_append (isPlainChar_append (isPlainChar_of_isBlank hfront)
      (isPlainChar_of_isQualified hbase)) (isPlainChar_of_isBlank hgap)
    have htailPlain := isPlainChar_of_isBlank htail
    have hcontent := whole_listed hlisted hargs
    have hbalanced := balanced_listed hlisted hargs
    exact ⟨Sealed.enclosed .angle hplain hcontent hbalanced (.of_plain htailPlain), fun _ =>
      Lexeme.guarded_arrow_enclosed .angle hplain hcontent hbalanced
        (Lexeme.guarded_arrow_plain htailPlain)⟩
  | enclosed hfront htail _ ih =>
    have hplain := isPlainChar_of_isBlank hfront
    have htailPlain := isPlainChar_of_isBlank htail
    exact ⟨Sealed.enclosed .round hplain ih.1.whole ih.1.balanced (.of_plain htailPlain), fun _ =>
      Lexeme.guarded_arrow_enclosed .round hplain ih.1.whole ih.1.balanced
        (Lexeme.guarded_arrow_plain htailPlain)⟩
  | plain _ ih => exact ⟨ih.1, nofun⟩
  | @nullable text tail type _ _ htail ih =>
    have hmark : ∀ c ∈ ['?'], isPlainChar c := List.all_eq_true.mp (by decide)
    have hplain : ∀ c ∈ '?' :: tail, isPlainChar c :=
      isPlainChar_append hmark (isPlainChar_of_isBlank htail)
    exact ⟨ih.1.append (.of_plain hplain), nofun⟩
  | @function suspending front space content gap text params result hfront hspace hgap hlisted _ _
      ihParams ihResult =>
    have hparams := sealed_fst fun param hparam => (ihParams param hparam).1
    have hplain := isPlainChar_append (isPlainChar_append (isPlainChar_of_isBlank hfront)
      (isPlainChar_wordOf suspending)) (isPlainChar_of_isBlank hspace)
    have hrest : Sealed (gap ++ '-' :: '>' :: text) :=
      (Sealed.of_plain (isPlainChar_of_isBlank hgap)).append ihResult.1.arrow_cons
    have hsealed := Sealed.enclosed .round hplain (whole_listed hlisted hparams)
      (balanced_listed hlisted hparams) hrest
    rw [← List.cons_append, ← List.append_assoc] at hsealed
    exact ⟨hsealed, nofun⟩
  | @star front tail hfront htail =>
    have hstar : ∀ c ∈ ['*'], isPlainChar c := List.all_eq_true.mp (by decide)
    have hplain : ∀ c ∈ front ++ '*' :: tail, isPlainChar c :=
      isPlainChar_append (isPlainChar_of_isBlank hfront)
        (isPlainChar_append hstar (isPlainChar_of_isBlank htail))
    exact ⟨.of_plain hplain, nofun⟩
  | item _ ih => exact ⟨ih.1, nofun⟩
  | unit hname => exact ⟨.of_plain (isPlainChar_of_unitName hname), nofun⟩
  | value _ _ ih => exact ⟨ih.1, nofun⟩

end TypeExpr

end HolderInjection
