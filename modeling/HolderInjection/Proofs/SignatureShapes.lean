import HolderInjection.Proofs.BracketNesting
import HolderInjection.Proofs.SignatureGrammar
import HolderInjection.Proofs.SignatureLexemes
import HolderInjection.Proofs.TextParts

/-!
# How a shape is spelled

A signature is read by its shape. Each shape is spelled by its parts and the lexemes between them,
and every part stands in the signature.
-/

namespace HolderInjection.TypeExpr

open Lexeme (text spell trim arrow opener closer comma)

/-- The type of a shape, of which `signature` is the text. -/
def ofShape (signature : List Lexeme) : Shape → Except Problem TypeExpr
  | .function suspending params result => do
    let params ← params.mapM read
    if result = [] then .error (.noResult (spell signature))
    else if spell result ∈ unitNames then .ok (function suspending params unit)
    else return function suspending params (← read result)
  | .enclosed inner remainder => do ofRemainder signature remainder (← read inner)
  | .generic base args marked => do
    let args ← args.mapM readArgument
    let type := generic (spell base) args
    return if marked then nullable type else type
  | .marked inner => do mark signature (← read inner)
  | .named name => ofName name

/-- A signature is read by its shape. -/
theorem read_eq_ofShape (signature : List Lexeme) :
    read signature = Shape.of (trim signature) >>= ofShape (trim signature) := by
  rw [read_eq]
  cases Shape.of (trim signature) with
  | error problem => rfl
  | ok shape => cases shape <;> rfl

namespace Shape

theorem exists_cuts_of_listItems {inside : List Lexeme} {items : List (List Lexeme)}
    (h : listItems (trim inside) = .ok items) :
    ∃ cuts, items = cuts.map trim ∧ cuts ≠ [] ∧ (∀ cut ∈ cuts, cut <:+: inside) ∧
      Listed (cuts.map text) (text inside) := by
  unfold listItems at h
  split at h
  · cases h
  · rename_i cuts hcuts
    cases h
    obtain ⟨hne, hjoin⟩ := Lexeme.intercalate_of_cutAtCommas hcuts
    obtain ⟨front, tail, hsplit, hfront, htail⟩ := Lexeme.exists_trim inside
    refine ⟨cuts, rfl, hne, ?_, text front, text tail, ?_, ?_, ?_⟩
    · intro cut hcut
      have hinside := Text.isInfix_intercalate [comma] hcut
      rw [hjoin] at hinside
      exact hinside.trans (Text.trimWhile_isInfix _ _)
    · exact List.all_eq_true.mpr (Lexeme.isBlankChar_of_isBlank hfront)
    · exact List.all_eq_true.mpr (Lexeme.isBlankChar_of_isBlank htail)
    · rw [← Lexeme.text_intercalate, hjoin, ← Lexeme.text_append, ← Lexeme.text_append]
      exact congrArg text hsplit

theorem parameters_eq_ok {before : List Lexeme} {params : List (List Lexeme)}
    (h : parameters before = .ok params) :
    ∃ inside, before = opener .round :: inside ++ [closer .round] ∧
      (trim inside = [] ∧ params = [] ∨ listItems (trim inside) = .ok params) := by
  unfold parameters at h
  split at h
  · rename_i rest
    split at h
    · cases h
    · rename_i inside hclose
      refine ⟨inside, by rw [Lexeme.eq_of_cutAtClose hclose]; rfl, ?_⟩
      split at h
      · rename_i hempty
        cases h
        exact .inl ⟨hempty, rfl⟩
      · exact .inr h
    · cases h
  · cases h

theorem function?_ne_none {signature : List Lexeme}
    (hword : suspendWord.isPrefixOf signature = true) : function? signature ≠ .ok none := by
  intro h
  simp only [function?, hword, if_true] at h
  split at h
  · cases h
  · split at h <;> cases h

/-- Between the word before a function and the function there are blanks only. -/
theorem exists_body (signature : List Lexeme) :
    ∃ space tail, signature = Lexeme.ofText (wordOf (suspendWord.isPrefixOf signature)) ++ space ++
        (if suspendWord.isPrefixOf signature = true then
          trim (signature.drop suspendWord.length) else signature) ++ tail ∧
      (∀ x ∈ space, Lexeme.isBlank x) ∧ ∀ x ∈ tail, Lexeme.isBlank x := by
  by_cases hword : suspendWord.isPrefixOf signature = true
  · obtain ⟨space, tail, hdrop, hspace, htail⟩ :=
      Lexeme.exists_trim (signature.drop suspendWord.length)
    refine ⟨space, tail, ?_, hspace, htail⟩
    have hprefix := List.prefix_iff_eq_append.mp (List.isPrefixOf_iff_prefix.mp hword)
    rw [if_pos hword, hword, List.append_assoc, List.append_assoc, ← List.append_assoc space,
      ← hdrop]
    exact hprefix.symm
  · rw [if_neg hword]
    rw [Bool.not_eq_true] at hword
    exact ⟨[], [], by rw [hword]; simp [wordOf, Lexeme.ofText], by simp, by simp⟩

/-- A function is spelled by its word, the list of its parameters, an arrow and its result. -/
theorem function?_eq_some {signature : List Lexeme} {shape : Shape}
    (h : function? signature = .ok (some shape)) :
    ∃ suspending space inside gap after params,
      shape = .function suspending params (trim after) ∧
      signature = Lexeme.ofText (wordOf suspending) ++ space ++ opener .round :: inside ++
        closer .round :: gap ++ arrow :: after ∧
      (∀ x ∈ space, Lexeme.isBlank x) ∧ (∀ x ∈ gap, Lexeme.isBlank x) ∧
      (trim inside = [] ∧ params = [] ∨ listItems (trim inside) = .ok params) := by
  simp only [function?] at h
  obtain ⟨space, tail, hsplit, hspace, htail⟩ := exists_body signature
  generalize (if suspendWord.isPrefixOf signature = true then
    trim (signature.drop suspendWord.length) else signature) = body at h hsplit
  split at h
  · split at h <;> cases h
  · rename_i before after hcut
    split at h
    · cases h
    · rename_i params hparams
      cases h
      obtain ⟨inside, hbefore, hlist⟩ := parameters_eq_ok hparams
      obtain ⟨front, gap, hgap, hfront, hgapBlank⟩ := Lexeme.exists_trim before
      refine ⟨suspendWord.isPrefixOf signature, space ++ front, inside, gap, after ++ tail, params,
        ?_, ?_, ?_, hgapBlank, hlist⟩
      · have hpad : trim ([] ++ after ++ tail) = trim after := Lexeme.trim_pad (by simp) htail
        rw [← hpad, List.nil_append]
      · rw [hbefore] at hgap
        rw [Lexeme.eq_of_cutAtArrow? hcut, hgap] at hsplit
        simpa using hsplit
      · intro x hx
        rcases List.mem_append.mp hx with hx | hx
        · exact hspace x hx
        · exact hfront x hx

theorem ofGeneric_eq_ok {signature before rest : List Lexeme} {shape : Shape}
    (h : ofGeneric signature before rest = .ok shape) :
    ∃ inside after args, shape = .generic (trim before) args (trim after = [questionMark]) ∧
      rest = inside ++ closer .angle :: after ∧ Name.isQualified (text (trim before)) ∧
      (trim after = [] ∨ trim after = [questionMark]) ∧ listItems (trim inside) = .ok args := by
  simp only [ofGeneric] at h
  split at h
  · rename_i hbase
    split at h
    · cases h
    · rename_i inside after hclose
      split at h
      · cases h
      · rename_i hsuffix
        split at h
        · cases h
        · split at h
          · cases h
          · rename_i args hargs
            cases h
            exact ⟨inside, after, args, rfl, Lexeme.eq_of_cutAtClose hclose, hbase, by tauto, hargs⟩
  · cases h

/-- What a signature without an arrow of its own is spelled by. -/
theorem ofValue_eq_ok {signature : List Lexeme} {shape : Shape}
    (h : ofValue signature = .ok shape) :
    (∃ inside after, shape = .enclosed inside (trim after) ∧
      signature = opener .round :: inside ++ closer .round :: after) ∨
    (∃ before inside after args, shape = .generic (trim before) args (trim after = [questionMark]) ∧
      signature = before ++ opener .angle :: inside ++ closer .angle :: after ∧
      Name.isQualified (text (trim before)) ∧ (trim after = [] ∨ trim after = [questionMark]) ∧
      listItems (trim inside) = .ok args) ∨
    (shape = ofSuffix signature ∧ signature.head? ≠ some (opener .round)) := by
  unfold ofValue at h
  split at h
  · left
    unfold ofEnclosed at h
    split at h
    · cases h
    · rename_i rest inside after hclose
      cases h
      exact ⟨inside, after, rfl, by rw [Lexeme.eq_of_cutAtClose hclose]; rfl⟩
  · rename_i hhead
    have hhead : signature.head? ≠ some (opener .round) := by
      intro hopen
      obtain ⟨rest, hrest⟩ := List.head?_eq_some_iff.mp hopen
      exact hhead rest hrest
    right
    split at h
    · rename_i before rest hangle
      split at h
      · left
        obtain ⟨inside, after, args, rfl, hrest, hbase, hsuffix, hargs⟩ := ofGeneric_eq_ok h
        refine ⟨before, inside, after, args, rfl, ?_, hbase, hsuffix, hargs⟩
        rw [Lexeme.eq_of_cutAtAngle? hangle, hrest]
        simp
      · cases h
        exact .inr ⟨rfl, hhead⟩
    · cases h
      exact .inr ⟨rfl, hhead⟩

theorem of_eq_ok {signature : List Lexeme} {shape : Shape} (h : of signature = .ok shape) :
    function? signature = .ok (some shape) ∨
      ofValue signature = .ok shape ∧ (arrow ∈ signature → function? signature = .ok none) := by
  unfold of at h
  split at h
  · cases h
  · split at h
    · split at h
      · cases h
      · rename_i s hfunction
        cases h
        exact .inl hfunction
      · rename_i hfunction
        exact .inr ⟨h, fun _ => hfunction⟩
    · rename_i hnone
      exact .inr ⟨h, fun harrow => absurd harrow hnone⟩

theorem infix_of_listItems {inside : List Lexeme} {items : List (List Lexeme)}
    (h : listItems (trim inside) = .ok items) : ∀ item ∈ items, item <:+: inside := by
  obtain ⟨cuts, rfl, -, hinside, -⟩ := exists_cuts_of_listItems h
  intro item hitem
  obtain ⟨cut, hcut, rfl⟩ := List.mem_map.mp hitem
  exact (Text.trimWhile_isInfix _ _).trans (hinside cut hcut)

/-- Every part of a shape stands in the signature. -/
theorem isInfix_of_mem_parts {signature : List Lexeme} {shape : Shape}
    (h : of signature = .ok shape) : ∀ part ∈ shape.parts, part <:+: signature := by
  rcases of_eq_ok h with h | ⟨h, -⟩
  · obtain ⟨suspending, space, inside, gap, after, params, rfl, rfl, -, -, hlist⟩ :=
      function?_eq_some h
    intro part hpart
    rcases List.mem_cons.mp hpart with rfl | hpart
    · exact (Text.trimWhile_isInfix _ after).trans
        ((List.suffix_cons arrow after).isInfix.trans (List.suffix_append _ _).isInfix)
    · rcases hlist with ⟨-, rfl⟩ | hlist
      · simp at hpart
      · refine (infix_of_listItems hlist part hpart).trans
          ⟨Lexeme.ofText (wordOf suspending) ++ space ++ [opener .round],
            closer .round :: gap ++ arrow :: after, ?_⟩
        simp
  · rcases ofValue_eq_ok h with ⟨inside, after, rfl, rfl⟩ |
      ⟨before, inside, after, args, rfl, rfl, -, -, hlist⟩ | ⟨rfl, -⟩
    · intro part hpart
      rw [List.mem_singleton.mp hpart]
      exact ⟨[opener .round], closer .round :: after, by simp⟩
    · intro part hpart
      refine (infix_of_listItems hlist part hpart).trans
        ⟨before ++ [opener .angle], closer .angle :: after, ?_⟩
      simp
    · intro part hpart
      unfold ofSuffix at hpart
      split at hpart
      · rw [List.mem_singleton.mp hpart]
        exact (List.dropLast_prefix signature).isInfix
      · simp [parts] at hpart

end Shape

end HolderInjection.TypeExpr
