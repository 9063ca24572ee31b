import HolderInjection.Proofs.CanonicalText

/-!
# Keys tell types apart

The unit type and a type named `Unit` have one text, so keys cannot tell them apart where a result
is written. Nothing else is confused: types of one key differ in such results only, and text that
is no type never has the key of a type.
-/

namespace HolderInjection.TypeExpr

/-- The unit type in place of the simple type `Unit`. -/
def mergeIfUnit (type : TypeExpr) : TypeExpr :=
  if type = simple "Unit" then unit else type

mutual

/-- The type with the unit type in place of every result that is the simple type `Unit`. -/
def mergeUnit : TypeExpr → TypeExpr
  | nullable inner => nullable inner.mergeUnit
  | generic base args => generic base (mergeUnitAll args)
  | function suspending params result =>
    function suspending (mergeUnitAll params) result.mergeUnit.mergeIfUnit
  | type => type

/-- The types with their results merged. -/
def mergeUnitAll : List TypeExpr → List TypeExpr
  | [] => []
  | type :: types => type.mergeUnit :: mergeUnitAll types

end

mutual

/-- Whether some function in a type has the simple type of a name for its result. -/
def returns (name : String) : TypeExpr → Bool
  | nullable inner => inner.returns name
  | generic _ args => anyReturns name args
  | function _ params result =>
    anyReturns name params || result.returns name || result == simple name
  | _ => false

/-- Whether some of several types contains such a function. -/
def anyReturns (name : String) : List TypeExpr → Bool
  | [] => false
  | type :: types => type.returns name || anyReturns name types

end

theorem isFunction_mergeUnit (type : TypeExpr) : type.mergeUnit.isFunction = type.isFunction := by
  cases type <;> simp [mergeUnit, isFunction]

theorem render_mergeIfUnit (type : TypeExpr) : type.mergeIfUnit.render = type.render := by
  unfold mergeIfUnit
  split
  · rename_i h
    rw [h, render, render]
  · rfl

mutual

/-- Merging does not change the canonical text. -/
theorem render_mergeUnit : (type : TypeExpr) → type.mergeUnit.render = type.render
  | simple _ => rfl
  | unit => rfl
  | wildcard => rfl
  | nullable inner => by
    rw [mergeUnit, render, render, isFunction_mergeUnit, render_mergeUnit inner]
  | generic base args => by
    rw [mergeUnit, render, render, renderAll_mergeUnitAll args]
  | function suspending params result => by
    rw [mergeUnit, render, render, renderAll_mergeUnitAll params, render_mergeIfUnit,
      render_mergeUnit result]

theorem renderAll_mergeUnitAll : (types : List TypeExpr) →
    renderAll (mergeUnitAll types) = renderAll types
  | [] => rfl
  | type :: types => by
    rw [mergeUnitAll, renderAll, renderAll, render_mergeUnit type, renderAll_mergeUnitAll types]

end

/-- The types that are written as the unit type where a result stands. -/
def IsUnitText (type : TypeExpr) : Prop :=
  type = unit ∨ ∃ name ∈ unitNames, type = simple name

theorem eq_unit_of_normalize {type : TypeExpr} (h : type.normalize = unit) : type = unit := by
  cases type <;> simp_all [normalize]

/-- Results are read alike if they have one normal form or are both read as the unit type. -/
theorem normalize_eq_or_isUnitText {type other : TypeExpr}
    (h : type.normalize.asResult = other.normalize.asResult) :
    type.normalize = other.normalize ∨ IsUnitText type ∧ IsUnitText other := by
  unfold asResult at h
  rw [isNamedUnit_normalize, isNamedUnit_normalize] at h
  split at h
  · rename_i htype
    right
    refine ⟨.inr (exists_of_isNamedUnit htype), ?_⟩
    split at h
    · rename_i hother
      exact .inr (exists_of_isNamedUnit hother)
    · exact .inl (eq_unit_of_normalize h.symm)
  · split at h
    · rename_i hother
      exact .inr ⟨.inl (eq_unit_of_normalize h), .inr (exists_of_isNamedUnit hother)⟩
    · exact .inl h

theorem IsUnitText.cases {type : TypeExpr} (h : IsUnitText type) :
    type.mergeUnit.mergeIfUnit = unit ∧ type.render.toList = "Unit".toList ∨
      type.mergeUnit.mergeIfUnit = simple "kotlin.Unit" ∧
        type.render.toList = "kotlin.Unit".toList := by
  rcases h with rfl | ⟨name, hname, rfl⟩
  · exact .inl ⟨rfl, rfl⟩
  · unfold unitNames at hname
    rcases List.mem_cons.mp hname with rfl | hname
    · exact .inl ⟨rfl, rfl⟩
    · rw [List.mem_singleton.mp hname]
      exact .inr ⟨rfl, rfl⟩

/-- Of two results that are read as the unit type, the text tells whether the package is given. -/
theorem IsUnitText.eq_of_render_append {type other : TypeExpr} {x y : List Char}
    (htype : IsUnitText type) (hother : IsUnitText other)
    (htext : type.render.toList ++ x = other.render.toList ++ y) :
    type.mergeUnit.mergeIfUnit = other.mergeUnit.mergeIfUnit ∧ x = y := by
  rcases htype.cases with ⟨htype, hrender⟩ | ⟨htype, hrender⟩ <;>
    rcases hother.cases with ⟨hother, hrender'⟩ | ⟨hother, hrender'⟩ <;>
    rw [hrender, hrender'] at htext <;> rw [htype, hother]
  · exact ⟨rfl, List.append_cancel_left htext⟩
  · simp at htext
  · simp at htext
  · exact ⟨rfl, List.append_cancel_left htext⟩

section Texts

/-! The texts of types with some text behind them, part by part. -/

variable (tail : List Char)

theorem render_nullable_append (inner : TypeExpr) :
    (nullable inner).render.toList ++ tail =
      (if inner.isFunction then ['('] else []) ++
        (inner.render.toList ++ ((if inner.isFunction then [')'] else []) ++ '?' :: tail)) := by
  rw [render]
  split <;> simp

theorem render_generic_append (base : String) (args : List TypeExpr) :
    (generic base args).render.toList ++ tail =
      (base.toList ++ ['<']) ++ ((", ".intercalate (renderAll args)).toList ++ '>' :: tail) := by
  rw [render]
  simp

theorem render_function_append (suspending : Bool) (params : List TypeExpr) (result : TypeExpr) :
    (function suspending params result).render.toList ++ tail =
      (wordOf suspending ++ ['(']) ++ ((", ".intercalate (renderAll params)).toList ++
        (") -> ".toList ++ (result.render.toList ++ tail))) := by
  rw [render, wordOf]
  cases suspending <;> simp

theorem render_singleton_append (type : TypeExpr) :
    (", ".intercalate (renderAll [type])).toList ++ tail = type.render.toList ++ tail := by
  rw [toList_intercalate_renderAll, List.map_singleton, List.intercalate_singleton]

theorem render_cons_cons_append (type next : TypeExpr) (types : List TypeExpr) :
    (", ".intercalate (renderAll (type :: next :: types))).toList ++ tail =
      type.render.toList ++
        (", ".toList ++ ((", ".intercalate (renderAll (next :: types))).toList ++ tail)) := by
  rw [toList_intercalate_renderAll, toList_intercalate_renderAll, List.map_cons, List.map_cons,
    List.intercalate_cons_cons, List.append_assoc, List.append_assoc]
  rfl

end Texts

mutual

/-- Two types of one normal form whose texts begin two equal texts differ in results only that are
the unit type or named `Unit`. The induction carries along what follows the texts. -/
theorem mergeUnit_eq_of_render_append : (type other : TypeExpr) → (x y : List Char) →
    type.normalize = other.normalize →
    type.render.toList ++ x = other.render.toList ++ y →
      type.mergeUnit = other.mergeUnit ∧ x = y
  | simple _, other, _, _, hnormal, htext => by
    cases other <;> simp only [normalize, reduceCtorEq] at hnormal
    cases hnormal
    exact ⟨rfl, List.append_cancel_left htext⟩
  | unit, other, _, _, hnormal, htext => by
    cases other <;> simp only [normalize, reduceCtorEq] at hnormal
    exact ⟨rfl, List.append_cancel_left htext⟩
  | wildcard, other, _, _, hnormal, htext => by
    cases other <;> simp only [normalize, reduceCtorEq] at hnormal
    exact ⟨rfl, List.append_cancel_left htext⟩
  | nullable inner, other, x, y, hnormal, htext => by
    cases other with
    | nullable inner' =>
      rw [normalize, normalize, nullable.injEq] at hnormal
      have hfunction : inner.isFunction = inner'.isFunction := by
        rw [← isFunction_normalize, hnormal, isFunction_normalize]
      rw [render_nullable_append, render_nullable_append, hfunction] at htext
      obtain ⟨hinner, hrest⟩ := mergeUnit_eq_of_render_append inner inner' _ _ hnormal
        (List.append_cancel_left htext)
      rw [mergeUnit, mergeUnit, hinner]
      exact ⟨rfl, List.tail_eq_of_cons_eq (List.append_cancel_left hrest)⟩
    | _ => simp only [normalize, reduceCtorEq] at hnormal
  | generic base args, other, x, y, hnormal, htext => by
    cases other with
    | generic base' args' =>
      rw [normalize, normalize, generic.injEq] at hnormal
      obtain ⟨rfl, hargs⟩ := hnormal
      rw [render_generic_append, render_generic_append] at htext
      obtain ⟨hmerged, hrest⟩ := mergeUnitAll_eq_of_render_append args args' _ _ hargs
        (List.append_cancel_left htext)
      rw [mergeUnit, mergeUnit, hmerged]
      exact ⟨rfl, List.tail_eq_of_cons_eq hrest⟩
    | _ => simp only [normalize, reduceCtorEq] at hnormal
  | function suspending params result, other, x, y, hnormal, htext => by
    cases other with
    | function suspending' params' result' =>
      rw [normalize, normalize, function.injEq] at hnormal
      obtain ⟨rfl, hparams, hresult⟩ := hnormal
      rw [render_function_append, render_function_append] at htext
      obtain ⟨hmerged, hrest⟩ := mergeUnitAll_eq_of_render_append params params' _ _ hparams
        (List.append_cancel_left htext)
      have hresultText := List.append_cancel_left hrest
      rw [mergeUnit, mergeUnit, hmerged]
      rcases normalize_eq_or_isUnitText hresult with hnormal | ⟨hunit, hunit'⟩
      · obtain ⟨htype, hend⟩ := mergeUnit_eq_of_render_append result result' _ _ hnormal hresultText
        rw [htype]
        exact ⟨rfl, hend⟩
      · obtain ⟨htype, hend⟩ := hunit.eq_of_render_append hunit' hresultText
        rw [htype]
        exact ⟨rfl, hend⟩
    | _ => simp only [normalize, reduceCtorEq] at hnormal

theorem mergeUnitAll_eq_of_render_append : (types others : List TypeExpr) → (x y : List Char) →
    normalizeAll types = normalizeAll others →
    (", ".intercalate (renderAll types)).toList ++ x =
      (", ".intercalate (renderAll others)).toList ++ y →
      mergeUnitAll types = mergeUnitAll others ∧ x = y
  | [], others, _, _, hnormal, htext => by
    cases others <;> simp only [normalizeAll, reduceCtorEq] at hnormal
    exact ⟨rfl, List.append_cancel_left htext⟩
  | [type], others, x, y, hnormal, htext => by
    match others with
    | [other] =>
      obtain ⟨hfirst, -⟩ := List.cons_eq_cons.mp hnormal
      rw [render_singleton_append, render_singleton_append] at htext
      obtain ⟨hmerged, hend⟩ := mergeUnit_eq_of_render_append type other _ _ hfirst htext
      rw [mergeUnitAll, mergeUnitAll, hmerged]
      exact ⟨rfl, hend⟩
    | [] | _ :: _ :: _ => simp [normalizeAll] at hnormal
  | type :: next :: types, others, x, y, hnormal, htext => by
    match others with
    | other :: next' :: others =>
      obtain ⟨hfirst, hothers⟩ := List.cons_eq_cons.mp hnormal
      rw [render_cons_cons_append, render_cons_cons_append] at htext
      obtain ⟨hmerged, hrest⟩ := mergeUnit_eq_of_render_append type other _ _ hfirst htext
      obtain ⟨hmergedAll, hend⟩ := mergeUnitAll_eq_of_render_append (next :: types)
        (next' :: others) _ _ hothers (List.append_cancel_left hrest)
      rw [mergeUnitAll, hmerged, hmergedAll]
      exact ⟨rfl, hend⟩
    | [] | [_] => simp [normalizeAll] at hnormal

end

/-- Well-formed types have one canonical text exactly if they are the same up to results named
`Unit`. -/
theorem WellFormed.render_eq_iff {type other : TypeExpr} (htype : WellFormed type)
    (hother : WellFormed other) : type.render = other.render ↔ type.mergeUnit = other.mergeUnit := by
  constructor
  · intro h
    have hparse := htype.parse_render_normalize
    rw [h, hother.parse_render_normalize] at hparse
    have hnormal : type.normalize = other.normalize := (Except.ok.inj hparse).symm
    exact (mergeUnit_eq_of_render_append type other [] [] hnormal (by rw [h])).1
  · intro h
    rw [← render_mergeUnit type, h, render_mergeUnit]

theorem isSignature_iff {signature : String} :
    isSignature signature ↔ ∃ type, parse signature = .ok type := by
  unfold isSignature
  cases parse signature <;> simp [Except.isOk, Except.toBool]

theorem key_eq_trim {signature : String} (h : ¬isSignature signature) :
    key signature = String.ofList (Text.trim signature.toList) := by
  rw [key]
  split
  · rename_i type hparse
    exact absurd (isSignature_iff.mpr ⟨type, hparse⟩) h
  · rfl

/-- The key of text that is no type is no type. -/
theorem not_isSignature_key {signature : String} (h : ¬isSignature signature) :
    ¬isSignature (key signature) := by
  rw [key_eq_trim h]
  intro htrim
  obtain ⟨type, hparse⟩ := isSignature_iff.mp htrim
  have hderives := derives_of_parse hparse
  rw [String.toList_ofList] at hderives
  exact h (isSignature_iff.mpr ⟨type, parse_of_derives hderives.of_trim⟩)

theorem isSignature_key {signature : String} (h : isSignature signature) :
    isSignature (key signature) := by
  obtain ⟨type, hparse⟩ := isSignature_iff.mp h
  rw [key_eq_render hparse]
  exact isSignature_iff.mpr ⟨_, (wellFormed_of_parse hparse).parse_render_normalize⟩

theorem isSignature_iff_of_key_eq {signature other : String} (h : key signature = key other) :
    isSignature signature ↔ isSignature other := by
  constructor
  · intro hsignature
    by_contra hother
    exact not_isSignature_key hother (h ▸ isSignature_key hsignature)
  · intro hother
    by_contra hsignature
    exact not_isSignature_key hsignature (h ▸ isSignature_key hother)

/-- Two signatures have one key exactly if both are no types and their texts are equal, blanks at
the ends aside, or both are types that are equal up to results named `Unit`. -/
theorem key_eq_key_iff (signature other : String) :
    key signature = key other ↔
      (¬isSignature signature ∧ ¬isSignature other ∧
        Text.trim signature.toList = Text.trim other.toList) ∨
      ∃ type otherType, parse signature = .ok type ∧ parse other = .ok otherType ∧
        type.mergeUnit = otherType.mergeUnit := by
  have hboth {type otherType : TypeExpr} (hparse : parse signature = .ok type)
      (hother : parse other = .ok otherType) :
      key signature = key other ↔ type.mergeUnit = otherType.mergeUnit := by
    rw [key_eq_render hparse, key_eq_render hother]
    exact (wellFormed_of_parse hparse).render_eq_iff (wellFormed_of_parse hother)
  constructor
  · intro h
    by_cases hsignature : isSignature signature
    · obtain ⟨type, hparse⟩ := isSignature_iff.mp hsignature
      obtain ⟨otherType, hother⟩ := isSignature_iff.mp ((isSignature_iff_of_key_eq h).mp hsignature)
      exact .inr ⟨type, otherType, hparse, hother, (hboth hparse hother).mp h⟩
    · have hother : ¬isSignature other := (isSignature_iff_of_key_eq h).not.mp hsignature
      rw [key_eq_trim hsignature, key_eq_trim hother, String.ofList_inj] at h
      exact .inl ⟨hsignature, hother, h⟩
  · rintro (⟨hsignature, hother, htrim⟩ | ⟨type, otherType, hparse, hother, hmerged⟩)
    · rw [key_eq_trim hsignature, key_eq_trim hother, htrim]
    · exact (hboth hparse hother).mpr hmerged

theorem asResult_normalize_mergeIfUnit (type : TypeExpr) :
    type.mergeIfUnit.normalize.asResult = type.normalize.asResult := by
  unfold mergeIfUnit
  split
  · rename_i h
    rw [h]
    rfl
  · rfl

mutual

/-- Normal forms do not see the merging of results. -/
theorem normalize_mergeUnit : (type : TypeExpr) → type.mergeUnit.normalize = type.normalize
  | simple _ => rfl
  | unit => rfl
  | wildcard => rfl
  | nullable inner => by rw [mergeUnit, normalize, normalize, normalize_mergeUnit inner]
  | generic base args => by rw [mergeUnit, normalize, normalize, normalizeAll_mergeUnitAll args]
  | function suspending params result => by
    rw [mergeUnit, normalize, normalize, normalizeAll_mergeUnitAll params,
      asResult_normalize_mergeIfUnit, normalize_mergeUnit result]

theorem normalizeAll_mergeUnitAll : (types : List TypeExpr) →
    normalizeAll (mergeUnitAll types) = normalizeAll types
  | [] => rfl
  | type :: types => by
    rw [mergeUnitAll, normalizeAll, normalizeAll, normalize_mergeUnit type,
      normalizeAll_mergeUnitAll types]

end

theorem mergeIfUnit_eq_self {type : TypeExpr} (h : ¬type.isNamedUnit) : type.mergeIfUnit = type := by
  unfold mergeIfUnit
  split
  · rename_i hunit
    rw [hunit] at h
    exact absurd rfl h
  · rfl

mutual

/-- In a normal form there is no result left to merge. -/
theorem mergeUnit_normalize : (type : TypeExpr) → type.normalize.mergeUnit = type.normalize
  | simple _ => rfl
  | unit => rfl
  | wildcard => rfl
  | nullable inner => by rw [normalize, mergeUnit, mergeUnit_normalize inner]
  | generic base args => by rw [normalize, mergeUnit, mergeUnitAll_normalizeAll args]
  | function suspending params result => by
    rw [normalize, mergeUnit, mergeUnitAll_normalizeAll params, asResult]
    split
    · rfl
    · rename_i hnamed
      rw [mergeUnit_normalize result, mergeIfUnit_eq_self hnamed]

theorem mergeUnitAll_normalizeAll : (types : List TypeExpr) →
    mergeUnitAll (normalizeAll types) = normalizeAll types
  | [] => rfl
  | type :: types => by
    rw [normalizeAll, mergeUnitAll, mergeUnit_normalize type, mergeUnitAll_normalizeAll types]

end

mutual

theorem returnsNamedUnit_normalize : (type : TypeExpr) → type.normalize.returnsNamedUnit = false
  | simple _ => rfl
  | unit => rfl
  | wildcard => rfl
  | nullable inner => by rw [normalize, returnsNamedUnit, returnsNamedUnit_normalize inner]
  | generic base args => by rw [normalize, returnsNamedUnit, anyReturnsNamedUnit_normalizeAll args]
  | function suspending params result => by
    rw [normalize, returnsNamedUnit, anyReturnsNamedUnit_normalizeAll params, asResult]
    split
    · rfl
    · rename_i hnamed
      rw [returnsNamedUnit_normalize result]
      simpa using hnamed

theorem anyReturnsNamedUnit_normalizeAll : (types : List TypeExpr) →
    anyReturnsNamedUnit (normalizeAll types) = false
  | [] => rfl
  | type :: types => by
    rw [normalizeAll, anyReturnsNamedUnit, returnsNamedUnit_normalize type,
      anyReturnsNamedUnit_normalizeAll types, Bool.or_false]

end

theorem returnsNamedUnit_mergeIfUnit (type : TypeExpr) :
    type.mergeIfUnit.returnsNamedUnit = type.returnsNamedUnit := by
  unfold mergeIfUnit
  split
  · rename_i h
    rw [h]
    rfl
  · rfl

theorem isNamedUnit_mergeIfUnit (type : TypeExpr) :
    type.mergeUnit.mergeIfUnit.isNamedUnit = (type == simple "kotlin.Unit") := by
  cases type with
  | simple name =>
    change (simple name).mergeIfUnit.isNamedUnit = _
    unfold mergeIfUnit
    split
    · rename_i hname
      rw [hname]
      rfl
    · rename_i hname
      have hne : name ≠ "Unit" := by simpa using hname
      rw [Bool.eq_iff_iff]
      simp [isNamedUnit, unitNames, hne]
  | _ => rfl

mutual

/-- After the merging the only results left that are named for the unit type give the package. -/
theorem returnsNamedUnit_mergeUnit : (type : TypeExpr) →
    type.mergeUnit.returnsNamedUnit = type.returns "kotlin.Unit"
  | simple _ => rfl
  | unit => rfl
  | wildcard => rfl
  | nullable inner => by
    rw [mergeUnit, returnsNamedUnit, returns, returnsNamedUnit_mergeUnit inner]
  | generic base args => by
    rw [mergeUnit, returnsNamedUnit, returns, anyReturnsNamedUnit_mergeUnitAll args]
  | function suspending params result => by
    rw [mergeUnit, returnsNamedUnit, returns, anyReturnsNamedUnit_mergeUnitAll params,
      returnsNamedUnit_mergeIfUnit, returnsNamedUnit_mergeUnit result, isNamedUnit_mergeIfUnit]

theorem anyReturnsNamedUnit_mergeUnitAll : (types : List TypeExpr) →
    anyReturnsNamedUnit (mergeUnitAll types) = anyReturns "kotlin.Unit" types
  | [] => rfl
  | type :: types => by
    rw [mergeUnitAll, anyReturnsNamedUnit, anyReturns, returnsNamedUnit_mergeUnit type,
      anyReturnsNamedUnit_mergeUnitAll types]

end

/-- A type and its normal form have one text exactly if no function in the type has a result that is
named for the unit type with its package. -/
theorem render_normalize_eq_iff (type : TypeExpr) :
    type.normalize.render = type.render ↔ type.returns "kotlin.Unit" = false := by
  rw [← returnsNamedUnit_mergeUnit]
  constructor
  · intro h
    have hnormal : type.normalize.normalize = type.normalize :=
      normalize_eq_self _ (returnsNamedUnit_normalize type)
    have hmerged := (mergeUnit_eq_of_render_append _ type [] [] hnormal (by rw [h])).1
    rw [← hmerged, mergeUnit_normalize]
    exact returnsNamedUnit_normalize type
  · intro h
    rw [← normalize_mergeUnit, normalize_eq_self _ h, render_mergeUnit]

/-- The key of a key is that key, unless a function in the type has the result `kotlin.Unit`, which
the key takes for the unit type only when it is read again. -/
theorem key_key_eq_iff (signature : String) :
    key (key signature) = key signature ↔
      ∀ type, parse signature = .ok type → type.returns "kotlin.Unit" = false := by
  by_cases hsignature : isSignature signature
  · obtain ⟨type, hparse⟩ := isSignature_iff.mp hsignature
    have hagain := (wellFormed_of_parse hparse).parse_render_normalize
    rw [key_eq_render hparse, key_eq_render hagain, render_normalize_eq_iff, hparse]
    simp
  · have hagain := not_isSignature_key hsignature
    rw [key_eq_trim hagain, key_eq_trim hsignature, String.toList_ofList]
    refine iff_of_true (congrArg String.ofList (Text.trimWhile_trimWhile _)) fun type hparse => ?_
    exact absurd (isSignature_iff.mpr ⟨type, hparse⟩) hsignature

/-- A result in parentheses is not taken for the unit type, but its key is. -/
theorem key_not_idempotent : ¬∀ signature : String, key (key signature) = key signature := by
  intro h
  have hname : Derives .primary "kotlin.Unit".toList (simple "kotlin.Unit") :=
    derives_render_name (by decide)
  have hresult : Derives .result " (kotlin.Unit)".toList (simple "kotlin.Unit") :=
    .value (by decide) (.plain (@Derives.enclosed [' '] _ [] _ rfl rfl (.plain hname)))
  have hparse : parse "() -> (kotlin.Unit)" = .ok (function false [] (simple "kotlin.Unit")) :=
    parse_of_derives (@Derives.function false [] [] [] [' '] _ [] _ rfl rfl rfl
      ⟨[], [], rfl, rfl, rfl⟩ (by simp) hresult)
  have hwell : WellFormed (function false [] (simple "kotlin.Unit")) :=
    .function (by simp) fun _ => .simple (by decide)
  have hkey := h "() -> (kotlin.Unit)"
  rw [key_eq_render hparse, key_eq_render hwell.parse_render_normalize] at hkey
  exact absurd hkey (by decide)

end HolderInjection.TypeExpr
