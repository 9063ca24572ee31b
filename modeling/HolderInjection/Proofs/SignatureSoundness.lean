import HolderInjection.Proofs.SignatureShapes

/-!
# Every signature that is read derives from the grammar

The outermost construct of a signature is spelled by the texts of its parts, so the derivations of
the parts are put together to one of the whole. Parts are shorter, which carries the induction.
-/

namespace HolderInjection.TypeExpr

open Lexeme (text spell trim arrow opener closer comma)

theorem exists_of_bind_eq_ok {α β ε : Type} {r : Except ε α} {f : α → Except ε β} {b : β}
    (h : r >>= f = .ok b) : ∃ a, r = .ok a ∧ f a = .ok b := by
  cases r with
  | error problem => cases h
  | ok a => exact ⟨a, rfl, h⟩

theorem exists_pairs_of_mapM {α β ε : Type} {f : α → Except ε β} {items : List α}
    {values : List β} (h : items.mapM f = .ok values) :
    ∃ pairs : List (α × β), pairs.map (·.1) = items ∧ pairs.map (·.2) = values ∧
      ∀ pair ∈ pairs, f pair.1 = .ok pair.2 := by
  induction items generalizing values with
  | nil =>
    rw [List.mapM_nil] at h
    cases h
    exact ⟨[], rfl, rfl, by simp⟩
  | cons item items ih =>
    rw [List.mapM_cons] at h
    obtain ⟨value, hitem, h⟩ := exists_of_bind_eq_ok h
    obtain ⟨rest, hrest, h⟩ := exists_of_bind_eq_ok h
    cases h
    obtain ⟨pairs, hfst, hsnd, hpairs⟩ := ih hrest
    refine ⟨(item, value) :: pairs, ?_, ?_, ?_⟩
    · rw [List.map_cons, hfst]
    · rw [List.map_cons, hsnd]
    · intro pair hpair
      rcases List.mem_cons.mp hpair with rfl | hpair
      · exact hitem
      · exact hpairs pair hpair

theorem mapM_of_pairs {α β ε : Type} {f : α → Except ε β} {pairs : List (α × β)}
    (h : ∀ pair ∈ pairs, f pair.1 = .ok pair.2) :
    (pairs.map (·.1)).mapM f = .ok (pairs.map (·.2)) := by
  induction pairs with
  | nil => rfl
  | cons pair pairs ih =>
    rw [List.map_cons, List.mapM_cons, h pair List.mem_cons_self,
      ih fun other hother => h other (List.mem_cons_of_mem _ hother)]
    rfl

/-- What is read from the items of a list derives from the list. -/
theorem exists_listed {phrase : Phrase} {f : List Lexeme → Except Problem TypeExpr}
    {inside : List Lexeme} {items : List (List Lexeme)} {types : List TypeExpr}
    (hlist : Shape.listItems (trim inside) = .ok items) (hmap : items.mapM f = .ok types)
    (hitems : ∀ item ∈ items, ∀ type, f item = .ok type → Derives phrase (text item) type) :
    ∃ args : List (List Char × TypeExpr), args.map (·.2) = types ∧ args ≠ [] ∧
      Listed (args.map (·.1)) (text inside) ∧ ∀ arg ∈ args, Derives phrase arg.1 arg.2 := by
  obtain ⟨cuts, rfl, hne, -, hlisted⟩ := Shape.exists_cuts_of_listItems hlist
  rw [List.mapM_map] at hmap
  obtain ⟨pairs, rfl, rfl, hpairs⟩ := exists_pairs_of_mapM hmap
  refine ⟨pairs.map fun pair => (text pair.1, pair.2), ?_, ?_, ?_, ?_⟩
  · rw [List.map_map]
    rfl
  · simpa using hne
  · rw [List.map_map] at hlisted ⊢
    exact hlisted
  · intro arg harg
    obtain ⟨pair, hpair, rfl⟩ := List.mem_map.mp harg
    apply Derives.of_trim
    rw [← Lexeme.text_trim]
    exact hitems (trim pair.1) (List.mem_map_of_mem (List.mem_map_of_mem hpair)) pair.2
      (hpairs pair hpair)

theorem isBlank_text {lexemes : List Lexeme} (h : ∀ x ∈ lexemes, Lexeme.isBlank x) :
    Text.isBlank (text lexemes) :=
  List.all_eq_true.mpr (Lexeme.isBlankChar_of_isBlank h)

theorem isBlank_of_trim_eq_nil {lexemes : List Lexeme} (h : trim lexemes = []) :
    Text.isBlank (text lexemes) := by
  obtain ⟨front, tail, hsplit, hfront, htail⟩ := Lexeme.exists_trim lexemes
  rw [h, List.append_nil] at hsplit
  rw [hsplit]
  apply isBlank_text
  intro x hx
  rcases List.mem_append.mp hx with hx | hx
  · exact hfront x hx
  · exact htail x hx

theorem derives_result {result : List Lexeme} {type : TypeExpr}
    (hread : ∀ type, read (trim result) = .ok type → Derives .type (text (trim result)) type)
    (h : (if spell (trim result) ∈ unitNames then .ok unit else read (trim result)) = .ok type) :
    Derives .result (text result) type := by
  have hspell : spell (trim result) = String.ofList (Text.trim (text result)) :=
    congrArg String.ofList (Lexeme.text_trim result)
  rw [hspell] at h
  split at h
  · rename_i hunit
    cases h
    exact .unit hunit
  · rename_i hunit
    apply Derives.value hunit
    apply Derives.of_trim
    rw [← Lexeme.text_trim]
    exact hread type h

theorem derives_function {signature : List Lexeme} {suspending : Bool}
    {params : List (List Lexeme)} {result : List Lexeme} {type : TypeExpr}
    (hshape : Shape.function? signature = .ok (some (.function suspending params result)))
    (hparts : ∀ part ∈ result :: params, ∀ type, read part = .ok type →
      Derives .type (text part) type)
    {types : List TypeExpr} (hparams : params.mapM read = .ok types) {value : TypeExpr}
    (hresult : (if spell result ∈ unitNames then .ok unit else read result) = .ok value)
    (htype : type = function suspending types value) : Derives .type (text signature) type := by
  obtain ⟨word, space, inside, gap, after, items, hfunction, rfl, hspace, hgap, hlist⟩ :=
    Shape.function?_eq_some hshape
  cases hfunction
  have hvalue : Derives .result (text after) value :=
    derives_result (hparts (trim after) List.mem_cons_self) hresult
  obtain ⟨args, hargs, hlisted, hderives⟩ : ∃ args : List (List Char × TypeExpr),
      args.map (·.2) = types ∧ Listed (args.map (·.1)) (text inside) ∧
        ∀ arg ∈ args, Derives .type arg.1 arg.2 := by
    rcases hlist with ⟨hempty, rfl⟩ | hlist
    · rw [List.mapM_nil] at hparams
      cases hparams
      refine ⟨[], rfl, ⟨text inside, [], isBlank_of_trim_eq_nil hempty, rfl, ?_⟩, by simp⟩
      simp [List.intercalate_nil]
    · obtain ⟨args, hargs, -, hlisted, hderives⟩ := exists_listed hlist hparams fun item hitem =>
        hparts item (List.mem_cons_of_mem _ hitem)
      exact ⟨args, hargs, hlisted, hderives⟩
  have hd := @Derives.function suspending [] _ _ _ _ _ _ rfl (isBlank_text hspace)
    (isBlank_text hgap) hlisted hderives hvalue
  rw [htype, ← hargs]
  simpa [Lexeme.text_ofText, Lexeme.chars, Bracket.opening, Bracket.closing] using hd

theorem eq_nil_of_trimmed {signature front rest : List Lexeme} (htrim : trim signature = signature)
    (hsplit : signature = front ++ rest) (hfront : ∀ x ∈ front, Lexeme.isBlank x) : front = [] := by
  cases front with
  | nil => rfl
  | cons x front =>
    have hblank := hfront x List.mem_cons_self
    have hhead : x ∈ (trim signature).head? := by
      rw [htrim, hsplit]
      rfl
    exact absurd hblank (Text.not_of_mem_head?_trimWhile x hhead)

/-- What follows a primary is blank or marks it as nullable. -/
theorem derives_suffix {core : List Char} {type : TypeExpr}
    (hcore : ∀ tail, Text.isBlank tail → Derives .primary (core ++ tail) type)
    (after : List Lexeme) :
    (trim after = [] → Derives .type (core ++ text after) type) ∧
      (trim after = [Shape.questionMark] → ¬type.isNullable →
        Derives .type (core ++ text after) (nullable type)) := by
  constructor
  · intro hempty
    exact .plain (hcore _ (isBlank_of_trim_eq_nil hempty))
  · intro hquestion hmark
    obtain ⟨front, tail, hsplit, hfront, htail⟩ := Lexeme.exists_trim after
    have hd := Derives.nullable (hcore _ (isBlank_text hfront)) hmark (isBlank_text htail)
    rw [hquestion] at hsplit
    rw [hsplit]
    simpa [Lexeme.chars, Shape.questionMark] using hd

theorem derives_enclosed {signature inner after : List Lexeme} {innerType type : TypeExpr}
    (hinner : Derives .type (text inner) innerType)
    (h : ofRemainder signature (trim after) innerType = .ok type) :
    Derives .type (text (opener .round :: inner ++ closer .round :: after)) type := by
  have hcore (tail : List Char) (htail : Text.isBlank tail) :
      Derives .primary (('(' :: text inner ++ [')']) ++ tail) innerType := by
    have hd := @Derives.enclosed [] _ _ _ rfl htail hinner
    simpa using hd
  obtain ⟨hplain, hmarked⟩ := derives_suffix hcore after
  have htext : text (opener .round :: inner ++ closer .round :: after) =
      ('(' :: text inner ++ [')']) ++ text after := by
    simp [Lexeme.chars, Bracket.opening, Bracket.closing]
  rw [htext]
  unfold ofRemainder at h
  split at h
  · rename_i hempty
    cases h
    exact hplain hempty
  · split at h
    · rename_i hquestion
      unfold mark at h
      split at h
      · cases h
      · rename_i hmark
        cases h
        exact hmarked hquestion hmark
    · cases h

/-- A base that is spelled as the word before a function is that word. -/
theorem suspendWord_prefix {base gap rest : List Lexeme} (hbase : Lexeme.Canonical base)
    (hgap : Lexeme.Canonical gap) (hword : spell base = "suspend")
    (hspace : (text gap).head? = some ' ') :
    Shape.suspendWord.isPrefixOf (base ++ gap ++ rest) = true := by
  have htext : text base = "suspend".toList := by
    rw [← hword, spell, String.toList_ofList]
  obtain ⟨blanks, hblanks⟩ := List.head?_eq_some_iff.mp hspace
  have hbaseEq : base = Lexeme.ofText "suspend".toList := by rw [← htext, hbase]
  have hgapEq : gap = Lexeme.plain ' ' :: Lexeme.ofText blanks := by
    rw [← hgap, hblanks, Lexeme.ofText_cons (.inl (by decide))]
    rfl
  rw [List.isPrefixOf_iff_prefix, hbaseEq, hgapEq]
  exact ⟨Lexeme.ofText blanks ++ rest, by rfl⟩

theorem derives_generic {signature before inside after : List Lexeme}
    {args : List (List Char × TypeExpr)} (hcanonical : Lexeme.Canonical signature)
    (htrim : trim signature = signature)
    (hsplit : signature = before ++ opener .angle :: inside ++ closer .angle :: after)
    (hword : arrow ∈ signature → ¬Shape.suspendWord.isPrefixOf signature = true)
    (hbase : Name.isQualified (text (trim before))) (hne : args ≠ [])
    (hlisted : Listed (args.map (·.1)) (text inside))
    (hargs : ∀ arg ∈ args, Derives .argument arg.1 arg.2) (tail : List Char)
    (htail : Text.isBlank tail) :
    Derives .primary ((text before ++ '<' :: text inside ++ ['>']) ++ tail)
      (generic (spell (trim before)) (args.map (·.2))) := by
  obtain ⟨front, gap, hbefore, hfront, hgap⟩ := Lexeme.exists_trim before
  generalize trim before = base at hbase hbefore ⊢
  subst hbefore
  have hnil : front = [] := by
    have hrest : signature = front ++ (base ++ gap ++ opener .angle :: inside ++
        closer .angle :: after) := by
      rw [hsplit]
      simp only [List.append_assoc]
    exact eq_nil_of_trimmed htrim hrest hfront
  subst hnil
  have hspell : (spell base).toList = text base := String.toList_ofList
  have hguard : spell base = "suspend" → (text gap).head? = some ' ' →
      ¬['-', '>'] <:+: text inside := by
    intro hsuspend hspace harrow
    have hinside : inside <:+: signature :=
      ⟨base ++ gap ++ [opener .angle], closer .angle :: after, by rw [hsplit]; simp⟩
    have hcanonicalBase : Lexeme.Canonical base := hcanonical.of_infix
      ⟨[], gap ++ opener .angle :: inside ++ closer .angle :: after, by rw [hsplit]; simp⟩
    have hcanonicalGap : Lexeme.Canonical gap := hcanonical.of_infix
      ⟨base, opener .angle :: inside ++ closer .angle :: after, by rw [hsplit]; simp⟩
    apply hword (hcanonical.arrow_mem hinside harrow)
    rw [hsplit, List.nil_append, List.append_assoc]
    exact suspendWord_prefix hcanonicalBase hcanonicalGap hsuspend hspace
  have hd := @Derives.generic (spell base) [] _ _ _ _ (by rwa [hspell]) rfl (isBlank_text hgap)
    htail hne hlisted hargs hguard
  rw [hspell] at hd
  simpa using hd

theorem derives_named {name : List Lexeme} {type : TypeExpr} (h : ofName name = .ok type) :
    Derives .type (text name) type := by
  unfold ofName at h
  split at h
  · rename_i hname
    cases h
    have hspell : (spell name).toList = text name := String.toList_ofList
    have hd := @Derives.name (spell name) [] [] (by rwa [hspell]) rfl rfl
    rw [hspell, List.append_nil, List.nil_append] at hd
    exact .plain hd
  · cases h

/-- A trimmed function begins with a parenthesis or with the word before a function. -/
theorem function_head {signature : List Lexeme} {suspending : Bool}
    {front space content after : List Char} (hcanonical : Lexeme.Canonical signature)
    (htrim : trim signature = signature) (hfront : Text.isBlank front) (hspace : Text.isBlank space)
    (htext : text signature = front ++ wordOf suspending ++ space ++ '(' :: content ++ after)
    (hafter : ['-', '>'] <:+: after) :
    signature.head? = some (opener .round) ∨
      arrow ∈ signature ∧ Shape.suspendWord.isPrefixOf signature = true := by
  have hread : Lexeme.ofText (text signature) = signature := hcanonical
  cases suspending with
  | false =>
    left
    have hblank : Text.isBlank (front ++ space) := Text.isBlank_append hfront hspace
    have hsplit : signature =
        (front ++ space).map Lexeme.plain ++ opener .round :: Lexeme.ofText (content ++ after) := by
      have hopen : Lexeme.ofText ('(' :: (content ++ after)) =
          opener .round :: Lexeme.ofText (content ++ after) := Lexeme.ofText_cons (.inl (by decide))
      rw [← hread, htext, ← hopen, ← Lexeme.ofText_blank_append hblank]
      simp [wordOf]
    have hnil := eq_nil_of_trimmed htrim hsplit (Lexeme.isBlank_of_mem_map_plain hblank)
    rw [hsplit, hnil]
    rfl
  | true =>
    right
    have hsplit : signature = front.map Lexeme.plain ++
        Lexeme.ofText ("suspend ".toList ++ (space ++ '(' :: content ++ after)) := by
      rw [← hread, htext, ← Lexeme.ofText_blank_append hfront]
      simp [wordOf]
    have hnil := eq_nil_of_trimmed htrim hsplit (Lexeme.isBlank_of_mem_map_plain hfront)
    constructor
    · rw [← hread, Lexeme.arrow_mem_ofText_iff, htext]
      exact hafter.trans (List.suffix_append _ _).isInfix
    · rw [hsplit, hnil, List.isPrefixOf_iff_prefix, Lexeme.ofText_append (by decide)]
      exact List.prefix_append _ _

/-- Before a final question mark, a type that is not nullable is a primary: a function would take
the question mark for its result. -/
theorem derives_marked {signature inner : List Lexeme} {innerType type : TypeExpr}
    (hcanonical : Lexeme.Canonical signature) (htrim : trim signature = signature)
    (hsplit : signature = inner ++ [Shape.questionMark])
    (hhead : signature.head? ≠ some (opener .round))
    (hword : arrow ∈ signature → ¬Shape.suspendWord.isPrefixOf signature = true)
    (hinner : Derives .type (text inner) innerType)
    (h : mark signature innerType = .ok type) : Derives .type (text signature) type := by
  unfold mark at h
  split at h
  · cases h
  · rename_i hmark
    cases h
    have htext : text signature = text inner ++ '?' :: [] := by
      rw [hsplit]
      simp [Lexeme.chars, Shape.questionMark]
    rw [htext]
    generalize hinnerText : text inner = characters at hinner htext
    cases hinner with
    | plain hprimary => exact .nullable hprimary hmark rfl
    | nullable => simp [isNullable] at hmark
    | @function suspending front space content gap result params value hfront hspace =>
      have hafter : ['-', '>'] <:+: ')' :: gap ++ '-' :: '>' :: result ++ ['?'] :=
        ⟨')' :: gap, result ++ ['?'], by simp⟩
      have hfunction : text signature = front ++ wordOf suspending ++ space ++ '(' :: content ++
          (')' :: gap ++ '-' :: '>' :: result ++ ['?']) := by
        rw [htext]
        simp
      rcases function_head hcanonical htrim hfront hspace hfunction hafter with
        hopen | ⟨harrow, hprefix⟩
      · exact absurd hopen hhead
      · exact absurd hprefix (hword harrow)

theorem derives_readArgument {item : List Lexeme} {type : TypeExpr}
    (hitem : ∀ type, read item = .ok type → Derives .type (text item) type)
    (h : readArgument item = .ok type) : Derives .argument (text item) type := by
  unfold readArgument at h
  split at h
  · rename_i hstar
    cases h
    rw [hstar]
    exact @Derives.star [] [] rfl rfl
  · exact .item (hitem type h)

theorem derives_ofValue {signature : List Lexeme} {shape : Shape} {type : TypeExpr}
    (hcanonical : Lexeme.Canonical signature) (htrim : trim signature = signature)
    (hshape : Shape.ofValue signature = .ok shape)
    (hword : arrow ∈ signature → ¬Shape.suspendWord.isPrefixOf signature = true)
    (hparts : ∀ part ∈ shape.parts, ∀ type, read part = .ok type → Derives .type (text part) type)
    (h : ofShape signature shape = .ok type) : Derives .type (text signature) type := by
  rcases Shape.ofValue_eq_ok hshape with ⟨inside, after, rfl, hsplit⟩ |
    ⟨before, inside, after, args, rfl, hsplit, hbase, hsuffix, hargs⟩ | ⟨rfl, hhead⟩
  · obtain ⟨innerType, hinner, h⟩ := exists_of_bind_eq_ok h
    rw [hsplit]
    exact derives_enclosed (hparts inside List.mem_cons_self innerType hinner) h
  · obtain ⟨types, htypes, h⟩ := exists_of_bind_eq_ok h
    obtain ⟨derived, rfl, hne, hlisted, hderives⟩ := exists_listed hargs htypes fun item hitem _ =>
      derives_readArgument (hparts item hitem)
    have hcore := derives_generic hcanonical htrim hsplit hword hbase hne hlisted hderives
    obtain ⟨hplain, hmarked⟩ := derives_suffix hcore after
    have htext : text signature = (text before ++ '<' :: text inside ++ ['>']) ++ text after := by
      rw [hsplit]
      simp [Lexeme.chars, Bracket.opening, Bracket.closing]
    rw [htext]
    by_cases hquestion : trim after = [Shape.questionMark]
    · simp only [hquestion, decide_true, if_true, pure, Except.pure, Except.ok.injEq] at h
      rw [← h]
      exact hmarked hquestion (by simp [isNullable])
    · simp only [hquestion, decide_false, Bool.false_eq_true, if_false, pure, Except.pure,
        Except.ok.injEq] at h
      rw [← h]
      exact hplain (hsuffix.resolve_right hquestion)
  · unfold Shape.ofSuffix at h hparts
    by_cases hlast : signature.getLast? = some Shape.questionMark
    · rw [if_pos hlast] at h hparts
      obtain ⟨innerType, hinner, h⟩ := exists_of_bind_eq_ok h
      have hsplit := (List.dropLast_append_getLast? _ hlast).symm
      exact derives_marked hcanonical htrim hsplit hhead hword
        (hparts signature.dropLast List.mem_cons_self innerType hinner) h
    · rw [if_neg hlast] at h
      exact derives_named h

/-- A trimmed signature derives the type of its shape if the parts derive theirs. -/
theorem derives_ofShape {signature : List Lexeme} {shape : Shape} {type : TypeExpr}
    (hcanonical : Lexeme.Canonical signature) (htrim : trim signature = signature)
    (hshape : Shape.of signature = .ok shape)
    (hparts : ∀ part ∈ shape.parts, ∀ type, read part = .ok type → Derives .type (text part) type)
    (h : ofShape signature shape = .ok type) : Derives .type (text signature) type := by
  rcases Shape.of_eq_ok hshape with hfunction | ⟨hvalue, hnone⟩
  · obtain ⟨suspending, -, -, -, after, params, rfl, -⟩ := Shape.function?_eq_some hfunction
    obtain ⟨types, htypes, h⟩ := exists_of_bind_eq_ok h
    obtain ⟨value, hresult, htype⟩ : ∃ value,
        (if spell (trim after) ∈ unitNames then .ok unit else read (trim after)) = .ok value ∧
          type = function suspending types value := by
      split at h
      · cases h
      · split at h
        · rename_i hunit
          cases h
          exact ⟨unit, if_pos hunit, rfl⟩
        · rename_i hunit
          obtain ⟨value, hread, h⟩ := exists_of_bind_eq_ok h
          cases h
          exact ⟨value, by rw [if_neg hunit, hread], rfl⟩
    exact derives_function hfunction hparts htypes hresult htype
  · exact derives_ofValue hcanonical htrim hvalue
      (fun harrow hprefix => Shape.function?_ne_none hprefix (hnone harrow)) hparts h

/-- Whatever is read from lexemes derives from their text. -/
theorem derives_of_read {signature : List Lexeme} {type : TypeExpr}
    (hcanonical : Lexeme.Canonical signature) (h : read signature = .ok type) :
    Derives .type (text signature) type := by
  -- The parts of a shape are no subterms of the signature, only shorter lists.
  induction hlength : signature.length using Nat.strongRecOn generalizing signature type with
  | ind length ih =>
    apply Derives.of_trim
    rw [← Lexeme.text_trim]
    have hcanonicalTrim : Lexeme.Canonical (trim signature) :=
      hcanonical.of_infix (Text.trimWhile_isInfix _ _)
    rw [read_eq_ofShape] at h
    obtain ⟨shape, hshape, h⟩ := exists_of_bind_eq_ok h
    apply derives_ofShape hcanonicalTrim (Lexeme.trim_trim signature) hshape _ h
    intro part hpart partType hread
    have hshorter := Shape.length_part_lt hshape part hpart
    have htrimmed := Lexeme.length_trim_le signature
    exact ih part.length (by omega)
      (hcanonicalTrim.of_infix (Shape.isInfix_of_mem_parts hshape part hpart)) hread rfl

end HolderInjection.TypeExpr
