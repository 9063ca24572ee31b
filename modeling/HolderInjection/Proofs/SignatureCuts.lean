import HolderInjection.Proofs.SignatureNesting
import HolderInjection.Proofs.SignatureShapes

/-!
# The shapes of nested texts

Where brackets are balanced and commas and arrows stand inside them, each cut stops at the token
that a rule of the grammar has there, and the shape of the signature is the one of that rule.
-/

namespace HolderInjection.TypeExpr

open Lexeme (ofText text spell trim plain arrow opener closer comma Balanced Guarded Sealed)

theorem text_map_plain (characters : List Char) : text (characters.map plain) = characters := by
  induction characters with
  | nil => rfl
  | cons c characters ih => rw [List.map_cons, Lexeme.text_cons, ih]; rfl

namespace Shape

theorem cutAtArrow?_eq_none {signature : List Lexeme} (hbalanced : Balanced signature)
    (harrow : Guarded arrow [] signature) : Lexeme.cutAtArrow? 0 signature = none := by
  have h := Lexeme.cutAtArrow?_append hbalanced harrow []
  rw [List.append_nil] at h
  exact h

/-- Without an arrow outside its brackets a signature is a value. -/
theorem of_eq_ofValue {signature : List Lexeme} (hne : signature ≠ [])
    (hbalanced : Balanced signature) (harrow : Guarded arrow [] signature)
    (hword : arrow ∈ signature → suspendWord.isPrefixOf signature = false) :
    of signature = ofValue signature := by
  unfold of
  rw [if_neg hne]
  by_cases hmem : arrow ∈ signature
  · have hfunction : function? signature = .ok none := by
      simp [function?, hword hmem, cutAtArrow?_eq_none hbalanced harrow]
    rw [if_pos hmem, hfunction]
  · rw [if_neg hmem]

theorem ofValue_enclosed {inner : List Lexeme} (h : Balanced inner) (after : List Lexeme) :
    ofValue (opener .round :: inner ++ closer .round :: after) =
      .ok (enclosed inner (trim after)) := by
  rw [List.cons_append, ofValue, ofEnclosed, Lexeme.cutAtClose_of_balanced h]

theorem cutAtAngle?_plain_append (before : List Char) (rest : List Lexeme) :
    Lexeme.cutAtAngle? (before.map plain ++ opener .angle :: rest) =
      some (before.map plain, rest) := by
  induction before with
  | nil => rfl
  | cons c before ih =>
    rw [List.map_cons, List.cons_append, Lexeme.cutAtAngle?, ih]
    · rfl
    · simp

theorem cutAtAngle?_plain (characters : List Char) :
    Lexeme.cutAtAngle? (characters.map plain) = none := by
  induction characters with
  | nil => rfl
  | cons c characters ih =>
    rw [List.map_cons, Lexeme.cutAtAngle?, ih]
    · rfl
    · simp

theorem ofValue_plain (characters : List Char) :
    ofValue (characters.map plain) = .ok (ofSuffix (characters.map plain)) := by
  unfold ofValue
  rw [cutAtAngle?_plain]
  cases characters <;> rfl

theorem of_plain {characters : List Char} (h : characters ≠ []) :
    of (characters.map plain) = .ok (ofSuffix (characters.map plain)) := by
  rw [of_eq_ofValue (by simpa using h) (.of_plain characters) (.plain (by simp) characters),
    ofValue_plain]
  simp

theorem ofValue_generic (before : List Char) (after : List Lexeme) {inside : List Lexeme}
    {args : List (List Lexeme)} (hbefore : before ≠ [])
    (hbase : Name.isQualified (text (trim (before.map plain)))) (hinside : Balanced inside)
    (hargs : listItems (trim inside) = .ok args) (hne : trim inside ≠ [])
    (hafter : trim after = [] ∨ trim after = [questionMark]) :
    ofValue (before.map plain ++ opener .angle :: inside ++ closer .angle :: after) =
      .ok (generic (trim (before.map plain)) args (trim after = [questionMark])) := by
  have hangle : Lexeme.cutAtAngle? (before.map plain ++ opener .angle :: inside ++
      closer .angle :: after) = some (before.map plain, inside ++ closer .angle :: after) := by
    rw [List.append_assoc, List.cons_append, cutAtAngle?_plain_append]
  have hclosing : (before.map plain ++ opener .angle :: inside ++ closer .angle :: after).any
      Lexeme.hasClosingAngle = true := by
    simp [Lexeme.hasClosingAngle]
  obtain ⟨c, rest, rfl⟩ := List.exists_cons_of_ne_nil hbefore
  have hsuffix : ¬(trim after ≠ [] ∧ trim after ≠ [questionMark]) := by tauto
  unfold ofValue
  split
  · rename_i heq
    simp at heq
  · rw [hangle]
    simp only [hclosing, if_true]
    simp only [ofGeneric]
    rw [if_pos hbase, Lexeme.cutAtClose_of_balanced hinside]
    simp only [if_neg hsuffix, if_neg hne, hargs]

theorem parameters_enclosed {inside : List Lexeme} (h : Balanced inside) :
    parameters (opener .round :: inside ++ [closer .round]) =
      if trim inside = [] then .ok [] else listItems (trim inside) := by
  rw [List.cons_append, parameters, Lexeme.cutAtClose_of_balanced h]

theorem blank_not_mem {x : Lexeme} (hx : ¬Lexeme.isBlank x) {lexemes : List Lexeme}
    (h : ∀ y ∈ lexemes, Lexeme.isBlank y) : x ∉ lexemes :=
  fun hmem => hx (h x hmem)

theorem balanced_of_blank {lexemes : List Lexeme} (h : ∀ x ∈ lexemes, Lexeme.isBlank x) :
    Balanced lexemes := by
  obtain ⟨characters, rfl⟩ := Lexeme.exists_map_plain h
  exact .of_plain characters

theorem trim_enclosed (inside : List Lexeme) {gap : List Lexeme}
    (hgap : ∀ x ∈ gap, Lexeme.isBlank x) :
    trim (opener .round :: inside ++ closer .round :: gap) =
      opener .round :: inside ++ [closer .round] := by
  have hpad : trim ([] ++ (opener .round :: inside ++ [closer .round]) ++ gap) =
      trim (opener .round :: inside ++ [closer .round]) := Lexeme.trim_pad (by simp) hgap
  have hself : trim (opener .round :: inside ++ [closer .round]) =
      opener .round :: inside ++ [closer .round] :=
    Text.trimWhile_eq_self (by simp [Lexeme.isBlank])
      (by rw [List.getLast?_concat]; simp [Lexeme.isBlank])
  rw [hself] at hpad
  simpa using hpad

theorem suspendWord_not_prefix (rest : List Lexeme) :
    suspendWord.isPrefixOf (opener .round :: rest) = false := rfl

theorem function?_of_body {suspending : Bool} {space body before result : List Lexeme}
    {params : List (List Lexeme)} (hspace : ∀ x ∈ space, Lexeme.isBlank x)
    (hplain : suspending = false → space = []) (hhead : body.head? = some (opener .round))
    (htrim : trim body = body) (hcut : Lexeme.cutAtArrow? 0 body = some (before, result))
    (hparams : parameters (trim before) = .ok params) :
    function? (ofText (wordOf suspending) ++ space ++ body) =
      .ok (some (function suspending params (trim result))) := by
  cases suspending with
  | false =>
    obtain ⟨rest, rfl⟩ := List.head?_eq_some_iff.mp hhead
    have hsignature : ofText (wordOf false) ++ space ++ opener .round :: rest =
        opener .round :: rest := by
      rw [hplain rfl]
      rfl
    rw [hsignature]
    simp only [function?, suspendWord_not_prefix, Bool.false_eq_true, if_false, hcut, hparams]
  | true =>
    have hprefix : suspendWord.isPrefixOf (suspendWord ++ (space ++ body)) = true :=
      List.isPrefixOf_iff_prefix.mpr (List.prefix_append _ _)
    have hpad : trim (space ++ body ++ []) = trim body := Lexeme.trim_pad hspace (by simp)
    rw [List.append_nil, htrim] at hpad
    have hsignature : ofText (wordOf true) ++ space ++ body = suspendWord ++ (space ++ body) := by
      rw [List.append_assoc]
      rfl
    rw [hsignature]
    simp only [function?, hprefix, if_true, List.drop_left, hpad, hcut, hparams]

/-- Behind the word, a function begins with its parameters and is cut at its own arrow. -/
theorem of_function {suspending : Bool} {space inside gap result : List Lexeme}
    {params : List (List Lexeme)} (hspace : ∀ x ∈ space, Lexeme.isBlank x)
    (hplain : suspending = false → space = []) (hgap : ∀ x ∈ gap, Lexeme.isBlank x)
    (hinside : Balanced inside)
    (hparams : (if trim inside = [] then .ok [] else listItems (trim inside)) = .ok params)
    (htrim : trim (opener .round :: inside ++ closer .round :: gap ++ arrow :: result) =
      opener .round :: inside ++ closer .round :: gap ++ arrow :: result) :
    of (ofText (wordOf suspending) ++ space ++
      (opener .round :: inside ++ closer .round :: gap ++ arrow :: result)) =
        .ok (function suspending params (trim result)) := by
  have hcut : Lexeme.cutAtArrow? 0 (opener .round :: inside ++ closer .round :: gap ++
      arrow :: result) = some (opener .round :: inside ++ closer .round :: gap, result) := by
    have hbalanced := hinside.enclose (balanced_of_blank hgap) .round
    have hguarded := Guarded.enclose (x := arrow) rfl hinside
      (.of_not_mem (blank_not_mem (by simp [Lexeme.isBlank]) hgap)) .round
    have h := Lexeme.cutAtArrow?_append hbalanced hguarded (arrow :: result)
    rw [List.length_nil, Int.natCast_zero] at h
    rw [h, Lexeme.cutAtArrow?, if_pos rfl]
    simp
  have hbefore :
      parameters (trim (opener .round :: inside ++ closer .round :: gap)) = .ok params := by
    rw [trim_enclosed inside hgap, parameters_enclosed hinside, hparams]
  have hmem : arrow ∈ ofText (wordOf suspending) ++ space ++
      (opener .round :: inside ++ closer .round :: gap ++ arrow :: result) := by simp
  unfold of
  rw [if_neg (List.ne_nil_of_mem hmem), if_pos hmem,
    function?_of_body hspace hplain (by simp) htrim hcut hbefore]

/-- The items of a list are found in it again. -/
theorem listItems_of_listed {texts : List (List Char)} {content : List Char}
    (h : Listed texts content) (hne : texts ≠ []) (hsealed : ∀ text ∈ texts, Sealed text) :
    listItems (trim (ofText content)) = .ok (texts.map fun text => trim (ofText text)) := by
  obtain ⟨front, tail, hfront, htail, -, hcontent⟩ := ofText_listed h hsealed
  have hitems : ∀ item ∈ texts.map ofText, Balanced item ∧ Guarded comma [] item := by
    intro item hitem
    obtain ⟨text, htext, rfl⟩ := List.mem_map.mp hitem
    exact ⟨(hsealed text htext).balanced, (hsealed text htext).guarded⟩
  have htrim : trim (ofText content) = trim ([comma].intercalate (texts.map ofText)) := by
    rw [hcontent]
    exact Lexeme.trim_pad (Lexeme.isBlank_of_mem_map_plain hfront)
      (Lexeme.isBlank_of_mem_map_plain htail)
  have hcut := Lexeme.map_trim_cutAtCommas_trim ([comma].intercalate (texts.map ofText))
  rw [Lexeme.cutAtCommas_intercalate (by simpa using hne) hitems] at hcut
  obtain ⟨parts, hparts, htrimmed⟩ := Lexeme.map_eq_ok hcut
  rw [htrim, listItems, hparts]
  simp only [htrimmed, List.map_map]
  rfl

theorem listItems_ne_nil {inside : List Lexeme} {items : List (List Lexeme)}
    (h : listItems (trim inside) = .ok items) (hitems : ∀ item ∈ items, item ≠ []) :
    trim inside ≠ [] := by
  intro hempty
  rw [hempty, listItems, Lexeme.cutAtCommas] at h
  cases h
  exact hitems [] List.mem_cons_self rfl

/-- A bracketed text is a value, unless it begins with the word before a function. -/
theorem of_bracketed (bracket : Bracket) (before after : List Char) {inside : List Lexeme}
    (hbalanced : Balanced inside)
    (hword : arrow ∈ inside → ¬suspendWord <+:
      before.map plain ++ opener bracket :: inside ++ closer bracket :: after.map plain) :
    of (before.map plain ++ opener bracket :: inside ++ closer bracket :: after.map plain) =
      ofValue
        (before.map plain ++ opener bracket :: inside ++ closer bracket :: after.map plain) := by
  apply of_eq_ofValue
  · simp
  · rw [List.append_assoc]
    exact .plain_append before (hbalanced.enclose (.of_plain after) bracket)
  · rw [List.append_assoc]
    exact .plain_append (by simp) before
      (Guarded.enclose rfl hbalanced (.plain (by simp) after) bracket)
  · intro hmem
    have hinside : arrow ∈ inside := by simpa using hmem
    rw [Bool.eq_false_iff, ne_eq, List.isPrefixOf_iff_prefix]
    exact hword hinside

/-- The word before a function ends before the first bracket. -/
theorem word_prefix {bracket : Bracket} {before : List Char} {rest : List Lexeme}
    (h : suspendWord <+: before.map plain ++ opener bracket :: rest) :
    "suspend ".toList <+: before := by
  have hword : suspendWord = "suspend ".toList.map plain := rfl
  obtain ⟨tail, htail⟩ := h
  have hmap : suspendWord <+: before.map plain := by
    rcases List.append_eq_append_iff.mp htail with ⟨more, hmore, -⟩ | ⟨more, hmore, hrest⟩
    · exact ⟨more, hmore.symm⟩
    · cases more with
      | nil => exact ⟨[], by rw [hmore, List.append_nil, List.append_nil]⟩
      | cons x more =>
        obtain ⟨rfl, -⟩ := List.cons_eq_cons.mp hrest
        have hmem : opener bracket ∈ suspendWord := by rw [hmore]; simp
        rw [hword] at hmem
        obtain ⟨c, -, hc⟩ := List.mem_map.mp hmem
        cases hc
  obtain ⟨more, hmore⟩ := hmap
  have htext := congrArg text hmore
  rw [Lexeme.text_append, hword, text_map_plain, text_map_plain] at htext
  exact ⟨text more, htext⟩

end Shape

end HolderInjection.TypeExpr
