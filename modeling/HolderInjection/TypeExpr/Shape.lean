import HolderInjection.Name
import HolderInjection.TypeExpr.Problem

/-!
# Shapes of a type signature

The outermost construct of a signature, with the signatures of its parts left unread. A part is
always shorter than the whole, which is why reading a signature comes to an end.
-/

namespace HolderInjection.TypeExpr

open Lexeme (text spell trim)

/-- The outermost construct of a trimmed signature. -/
inductive Shape where
  /-- A function: what stands between its parentheses, cut at the commas, and after its arrow. -/
  | function (suspending : Bool) (params : List (List Lexeme)) (result : List Lexeme)
  /-- A type in parentheses, and what follows them. -/
  | enclosed (inner remainder : List Lexeme)
  /-- A base with its type arguments, and whether a question mark follows them. -/
  | generic (base : List Lexeme) (args : List (List Lexeme)) (marked : Bool)
  | marked (inner : List Lexeme)
  | named (name : List Lexeme)
  deriving DecidableEq, Repr

namespace Shape

/-- The signatures inside a shape. -/
def parts : Shape → List (List Lexeme)
  | function _ params result => result :: params
  | enclosed inner _ => [inner]
  | generic _ args _ => args
  | marked inner => [inner]
  | named _ => []

/-- The word in front of a suspending function, with the space that ends it. -/
def suspendWord : List Lexeme :=
  Lexeme.ofText "suspend ".toList

/-- The question mark of a nullable type. -/
def questionMark : Lexeme :=
  .plain '?'

/-- The items of a list of types, cut at the commas outside all brackets. -/
def listItems (content : List Lexeme) : Except Problem (List (List Lexeme)) :=
  match Lexeme.cutAtCommas [] content with
  | .error imbalance => .error (.ofList content imbalance)
  | .ok items => .ok (items.map trim)

/-- The parameters of a function; between empty parentheses there are none. -/
def parameters (before : List Lexeme) : Except Problem (List (List Lexeme)) :=
  match before with
  | .opener .round :: rest =>
    match Lexeme.cutAtClose .round [] rest with
    | .error imbalance => .error (.ofBracket .round before imbalance)
    | .ok (inside, []) => if trim inside = [] then .ok [] else listItems (trim inside)
    | .ok (_, _ :: _) => .error (.bareParams (spell before))
  | _ => .error (.bareParams (spell before))

/-- A function, if there is an arrow outside the brackets. After the word `suspend` there must be
one. -/
def function? (signature : List Lexeme) : Except Problem (Option Shape) :=
  let suspending := suspendWord.isPrefixOf signature
  let body := if suspending then trim (signature.drop suspendWord.length) else signature
  match Lexeme.cutAtArrow? 0 body with
  | none => if suspending then .error (.suspendsNothing (spell signature)) else .ok none
  | some (before, after) =>
    match parameters (trim before) with
    | .error problem => .error problem
    | .ok params => .ok (some (function suspending params (trim after)))

/-- A type in parentheses; `rest` follows the opening one. -/
def ofEnclosed (signature rest : List Lexeme) : Except Problem Shape :=
  match Lexeme.cutAtClose .round [] rest with
  | .error imbalance => .error (.ofBracket .round signature imbalance)
  | .ok (inside, after) => .ok (enclosed inside (trim after))

/-- A generic type, cut where its type arguments open. -/
def ofGeneric (signature before rest : List Lexeme) : Except Problem Shape :=
  let base := trim before
  if Name.isQualified (text base) then
    match Lexeme.cutAtClose .angle [] rest with
    | .error imbalance => .error (.ofBracket .angle signature imbalance)
    | .ok (inside, after) =>
      let suffix := trim after
      if suffix ≠ [] ∧ suffix ≠ [questionMark] then .error (.afterArguments (spell suffix))
      else if trim inside = [] then .error (.noArguments (spell base))
      else
        match listItems (trim inside) with
        | .error problem => .error problem
        | .ok args => .ok (generic base args (suffix = [questionMark]))
  else .error (.invalidBase (spell base))

/-- A nullable type or a name. -/
def ofSuffix (signature : List Lexeme) : Shape :=
  if signature.getLast? = some questionMark then marked signature.dropLast else named signature

/-- A signature without a top-level arrow: a type in parentheses, a generic type, a nullable type
or a name. -/
def ofValue (signature : List Lexeme) : Except Problem Shape :=
  match signature with
  | .opener .round :: rest => ofEnclosed signature rest
  | _ =>
    match Lexeme.cutAtAngle? signature with
    | some (before, rest) =>
      if signature.any Lexeme.hasClosingAngle then ofGeneric signature before rest
      else .ok (ofSuffix signature)
    | none => .ok (ofSuffix signature)

/-- The outermost construct of a trimmed signature. -/
def of (signature : List Lexeme) : Except Problem Shape :=
  if signature = [] then .error .empty
  else if .arrow ∈ signature then
    match function? signature with
    | .error problem => .error problem
    | .ok (some shape) => .ok shape
    | .ok none => ofValue signature
  else ofValue signature

theorem length_listItems_le {content : List Lexeme} {items : List (List Lexeme)}
    (h : listItems content = .ok items) : ∀ item ∈ items, item.length ≤ content.length := by
  unfold listItems at h
  split at h
  · simp at h
  · rename_i cuts hcuts
    cases h
    intro item hitem
    obtain ⟨cut, hmem, rfl⟩ := List.mem_map.mp hitem
    exact Nat.le_trans (Lexeme.length_trim_le cut)
      (Lexeme.length_le_of_cutAtCommas hcuts cut hmem)

theorem length_parameters_lt {before : List Lexeme} {params : List (List Lexeme)}
    (h : parameters before = .ok params) : ∀ param ∈ params, param.length < before.length := by
  unfold parameters at h
  split at h
  · rename_i rest
    split at h
    · simp at h
    · rename_i inside hinside
      split at h
      · cases h; simp
      · intro param hparam
        have hle := length_listItems_le h param hparam
        have hin := congrArg List.length (Lexeme.eq_of_cutAtClose hinside)
        have htrim := Lexeme.length_trim_le inside
        simp only [List.length_append, List.length_cons, List.length_nil] at hin ⊢
        omega
    · simp at h
  · simp at h

theorem length_part_function?_lt {signature : List Lexeme} {shape : Shape}
    (h : function? signature = .ok (some shape)) :
    ∀ part ∈ shape.parts, part.length < signature.length := by
  simp only [function?] at h
  generalize hbody : (if suspendWord.isPrefixOf signature = true then
    trim (signature.drop suspendWord.length) else signature) = body at h
  have hle : body.length ≤ signature.length := by
    rw [← hbody]
    split
    · exact Nat.le_trans (Lexeme.length_trim_le _) (by simp)
    · exact Nat.le_refl _
  split at h
  · split at h <;> simp at h
  · rename_i before after hcut
    have hlen := congrArg List.length (Lexeme.eq_of_cutAtArrow? hcut)
    simp only [List.length_append, List.length_cons] at hlen
    split at h
    · simp at h
    · rename_i params hparams
      cases h
      intro part hpart
      rcases List.mem_cons.mp hpart with rfl | hpart
      · have := Lexeme.length_trim_le after
        omega
      · have hlt := length_parameters_lt hparams part hpart
        have := Lexeme.length_trim_le before
        omega

theorem length_part_ofValue_lt {signature : List Lexeme} {shape : Shape}
    (h : ofValue signature = .ok shape) :
    ∀ part ∈ shape.parts, part.length < signature.length := by
  have hsuffix : ∀ part ∈ (ofSuffix signature).parts, part.length < signature.length := by
    unfold ofSuffix
    split
    · rename_i hlast
      cases signature with
      | nil => simp at hlast
      | cons s rest => simp [parts]
    · simp [parts]
  unfold ofValue at h
  split at h
  · rename_i rest
    unfold ofEnclosed at h
    split at h
    · simp at h
    · rename_i inside after hcut
      cases h
      have hlen := congrArg List.length (Lexeme.eq_of_cutAtClose hcut)
      simp only [List.length_append, List.length_cons] at hlen
      simp only [parts, List.mem_singleton, forall_eq, List.length_cons]
      omega
  · split at h
    · rename_i before rest hcut
      split at h
      · have hlen := congrArg List.length (Lexeme.eq_of_cutAtAngle? hcut)
        simp only [List.length_append, List.length_cons] at hlen
        simp only [ofGeneric] at h
        split at h
        · split at h
          · simp at h
          · rename_i inside after hclose
            have hin := congrArg List.length (Lexeme.eq_of_cutAtClose hclose)
            simp only [List.length_append, List.length_cons] at hin
            split at h
            · simp at h
            · split at h
              · simp at h
              · split at h
                · simp at h
                · rename_i args hargs
                  cases h
                  intro part hpart
                  have hle := length_listItems_le hargs part hpart
                  have := Lexeme.length_trim_le inside
                  omega
        · simp at h
      · cases h; exact hsuffix
    · cases h; exact hsuffix

/-- Every part of a signature is shorter than the signature. -/
theorem length_part_lt {signature : List Lexeme} {shape : Shape} (h : of signature = .ok shape) :
    ∀ part ∈ shape.parts, part.length < signature.length := by
  unfold of at h
  split at h
  · simp at h
  · split at h
    · split at h
      · simp at h
      · rename_i s hfun
        cases h
        exact length_part_function?_lt hfun
      · exact length_part_ofValue_lt h
    · exact length_part_ofValue_lt h

end Shape

end HolderInjection.TypeExpr
