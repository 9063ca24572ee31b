import HolderInjection.Proofs.SignatureCompleteness
import HolderInjection.TypeExpr.Key

/-!
# The canonical text of a type

A type that is read from a signature is well-formed, and the canonical text of a well-formed type is
read as that type. A function whose result is a type named for the unit type is the exception: the
name stands for the unit type there, whatever it stood for before.
-/

namespace HolderInjection.TypeExpr

/-- The types that can be written: names are qualified, a nullable type is not nullable inside, a
star is a type argument and the unit type is the result of a function. -/
inductive WellFormed : TypeExpr → Prop where
  | simple {name : String} (hname : Name.isQualified name.toList) : WellFormed (simple name)
  | nullable {inner : TypeExpr} (hinner : WellFormed inner) (hmark : ¬inner.isNullable) :
      WellFormed (nullable inner)
  | generic {base : String} {args : List TypeExpr} (hbase : Name.isQualified base.toList)
      (hne : args ≠ []) (hargs : ∀ arg ∈ args, arg ≠ wildcard → WellFormed arg) :
      WellFormed (generic base args)
  | function {suspending : Bool} {params : List TypeExpr} {result : TypeExpr}
      (hparams : ∀ param ∈ params, WellFormed param) (hresult : result ≠ unit → WellFormed result) :
      WellFormed (function suspending params result)

/-- Whether a type is a name that stands for the unit type where a result is written. -/
def isNamedUnit : TypeExpr → Bool
  | simple name => name ∈ unitNames
  | _ => false

/-- The type that a result is read as. -/
def asResult (type : TypeExpr) : TypeExpr :=
  if type.isNamedUnit then unit else type

mutual

/-- The type with the unit type in place of every result that is named for it. -/
def normalize : TypeExpr → TypeExpr
  | nullable inner => nullable inner.normalize
  | generic base args => generic base (normalizeAll args)
  | function suspending params result =>
    function suspending (normalizeAll params) result.normalize.asResult
  | type => type

/-- The normal forms of several types. -/
def normalizeAll : List TypeExpr → List TypeExpr
  | [] => []
  | type :: types => type.normalize :: normalizeAll types

end

mutual

/-- Whether some function in a type has a result that is named for the unit type. -/
def returnsNamedUnit : TypeExpr → Bool
  | nullable inner => inner.returnsNamedUnit
  | generic _ args => anyReturnsNamedUnit args
  | function _ params result =>
    anyReturnsNamedUnit params || result.returnsNamedUnit || result.isNamedUnit
  | _ => false

/-- Whether some of several types contains such a function. -/
def anyReturnsNamedUnit : List TypeExpr → Bool
  | [] => false
  | type :: types => type.returnsNamedUnit || anyReturnsNamedUnit types

end

theorem normalizeAll_eq_map (types : List TypeExpr) : normalizeAll types = types.map normalize := by
  induction types with
  | nil => rfl
  | cons type types ih => rw [normalizeAll, ih, List.map_cons]

theorem isNullable_normalize (type : TypeExpr) : type.normalize.isNullable = type.isNullable := by
  cases type <;> simp [normalize, isNullable]

theorem isFunction_normalize (type : TypeExpr) : type.normalize.isFunction = type.isFunction := by
  cases type <;> simp [normalize, isFunction]

theorem isNamedUnit_normalize (type : TypeExpr) :
    type.normalize.isNamedUnit = type.isNamedUnit := by
  cases type <;> simp [normalize, isNamedUnit]

theorem exists_of_isNamedUnit {type : TypeExpr} (h : type.isNamedUnit) :
    ∃ name ∈ unitNames, type = simple name := by
  cases type with
  | simple name => exact ⟨name, of_decide_eq_true h, rfl⟩
  | _ => cases h

mutual

/-- A type that names no result for the unit type is its own normal form. -/
theorem normalize_eq_self : (type : TypeExpr) → type.returnsNamedUnit = false →
    type.normalize = type
  | simple _, _ => rfl
  | unit, _ => rfl
  | wildcard, _ => rfl
  | nullable inner, h => by
    rw [returnsNamedUnit] at h
    rw [normalize, normalize_eq_self inner h]
  | generic base args, h => by
    rw [returnsNamedUnit] at h
    rw [normalize, normalizeAll_eq_self args h]
  | function suspending params result, h => by
    rw [returnsNamedUnit, Bool.or_eq_false_iff, Bool.or_eq_false_iff] at h
    obtain ⟨⟨hparams, hresult⟩, hname⟩ := h
    rw [normalize, normalizeAll_eq_self params hparams, normalize_eq_self result hresult, asResult,
      if_neg (by simp [hname])]

theorem normalizeAll_eq_self : (types : List TypeExpr) → anyReturnsNamedUnit types = false →
    normalizeAll types = types
  | [], _ => rfl
  | type :: types, h => by
    rw [anyReturnsNamedUnit, Bool.or_eq_false_iff] at h
    rw [normalizeAll, normalize_eq_self type h.1, normalizeAll_eq_self types h.2]

end

/-- Whether a type is well-formed where a phrase stands. -/
def WellPlaced : Phrase → TypeExpr → Prop
  | .type, type | .primary, type => WellFormed type
  | .argument, type => type ≠ wildcard → WellFormed type
  | .result, type => type ≠ unit → WellFormed type

/-- What derives from the grammar is well-formed. -/
theorem Derives.wellPlaced {phrase : Phrase} {text : List Char} {type : TypeExpr}
    (h : Derives phrase text type) : WellPlaced phrase type := by
  induction h with
  | name hname _ _ => exact WellFormed.simple hname
  | generic hbase _ _ _ hne _ _ _ ih =>
    apply WellFormed.generic hbase (by simpa using hne)
    intro arg harg hstar
    obtain ⟨pair, hpair, rfl⟩ := List.mem_map.mp harg
    exact ih pair hpair hstar
  | enclosed _ _ _ ih => exact ih
  | plain _ ih => exact ih
  | nullable _ hmark _ ih => exact WellFormed.nullable ih hmark
  | function _ _ _ _ _ _ ihParams ihResult =>
    refine WellFormed.function ?_ ihResult
    intro param hparam
    obtain ⟨pair, hpair, rfl⟩ := List.mem_map.mp hparam
    exact ihParams pair hpair
  | star _ _ => exact fun hstar => absurd rfl hstar
  | item _ ih => exact fun _ => ih
  | unit _ => exact fun hunit => absurd rfl hunit
  | value _ _ ih => exact fun _ => ih

theorem intercalate_cons_cons_left (separator : List Char) (c : Char) (text : List Char)
    (texts : List (List Char)) :
    separator.intercalate ((c :: text) :: texts) = c :: separator.intercalate (text :: texts) := by
  cases texts with
  | nil => simp [List.intercalate_singleton]
  | cons next texts => simp [List.intercalate_cons_cons]

theorem intercalate_cons_map_cons (text : List Char) (texts : List (List Char)) :
    [','].intercalate (text :: texts.map (' ' :: ·)) = [',', ' '].intercalate (text :: texts) := by
  induction texts generalizing text with
  | nil => rfl
  | cons next texts ih =>
    rw [List.map_cons, List.intercalate_cons_cons, List.intercalate_cons_cons, ih,
      intercalate_cons_cons_left]
    simp

/-- Texts that derive are a list of the grammar when they are joined as canonical texts are. -/
theorem exists_listed_joined {phrase : Phrase} {pairs : List (List Char × TypeExpr)}
    (h : ∀ pair ∈ pairs, Derives phrase pair.1 pair.2) :
    ∃ items : List (List Char × TypeExpr), items.map (·.2) = pairs.map (·.2) ∧
      Listed (items.map (·.1)) ([',', ' '].intercalate (pairs.map (·.1))) ∧
      ∀ item ∈ items, Derives phrase item.1 item.2 := by
  cases pairs with
  | nil => exact ⟨[], rfl, ⟨[], [], rfl, rfl, rfl⟩, by simp⟩
  | cons first pairs =>
    refine ⟨first :: pairs.map fun pair => (' ' :: pair.1, pair.2), ?_, ?_, ?_⟩
    · simp
    · refine ⟨[], [], rfl, rfl, ?_⟩
      have hjoin := intercalate_cons_map_cons first.1 (pairs.map (·.1))
      rw [List.map_map] at hjoin
      rw [List.map_cons, List.map_cons, List.map_map, List.nil_append, List.append_nil, ← hjoin]
      rfl
    · intro item hitem
      rcases List.mem_cons.mp hitem with rfl | hitem
      · exact h item List.mem_cons_self
      · obtain ⟨pair, hpair, rfl⟩ := List.mem_map.mp hitem
        have hpad : Derives phrase ([' '] ++ pair.1 ++ []) pair.2 :=
          (h pair (List.mem_cons_of_mem _ hpair)).pad rfl rfl
        rwa [List.append_nil] at hpad

/-- A type that is neither nullable nor a function derives as a primary. -/
theorem Derives.primary {text : List Char} {type : TypeExpr} (h : Derives .type text type)
    (hmark : ¬type.isNullable) (hfunction : ¬type.isFunction) : Derives .primary text type := by
  cases h with
  | plain h => exact h
  | nullable => exact absurd rfl hmark
  | function => exact absurd rfl hfunction

theorem toList_intercalate_renderAll (types : List TypeExpr) :
    (", ".intercalate (renderAll types)).toList =
      [',', ' '].intercalate (types.map fun type => type.render.toList) := by
  rw [renderAll_eq_map, String.toList_intercalate, List.map_map]
  rfl

theorem exists_listed_render {phrase : Phrase} {types : List TypeExpr}
    (h : ∀ type ∈ types, Derives phrase type.render.toList type.normalize) :
    ∃ items : List (List Char × TypeExpr), items.map (·.2) = normalizeAll types ∧
      Listed (items.map (·.1)) (", ".intercalate (renderAll types)).toList ∧
      ∀ item ∈ items, Derives phrase item.1 item.2 := by
  have hpairs : ∀ pair ∈ types.map fun type => (type.render.toList, type.normalize),
      Derives phrase pair.1 pair.2 := by
    intro pair hpair
    obtain ⟨type, htype, rfl⟩ := List.mem_map.mp hpair
    exact h type htype
  obtain ⟨items, hsnd, hlisted, hitems⟩ := exists_listed_joined hpairs
  refine ⟨items, ?_, ?_, hitems⟩
  · rw [hsnd, List.map_map, normalizeAll_eq_map]
    rfl
  · rw [toList_intercalate_renderAll]
    rw [List.map_map] at hlisted
    exact hlisted

theorem derives_render_name {name : String} (h : Name.isQualified name.toList) :
    Derives .primary name.toList (simple name) := by
  have hd := @Derives.name name [] [] h rfl rfl
  rwa [List.append_nil, List.nil_append] at hd

theorem derives_render_nullable {inner : TypeExpr}
    (h : Derives .type inner.render.toList inner.normalize) (hmark : ¬inner.isNullable) :
    Derives .type (nullable inner).render.toList (nullable inner).normalize := by
  rw [← isNullable_normalize] at hmark
  rw [render, normalize]
  split
  · have hd := @Derives.nullable _ [] _ (@Derives.enclosed [] _ [] _ rfl rfl h) hmark rfl
    simpa using hd
  · rename_i hfunction
    rw [← isFunction_normalize] at hfunction
    have hd := @Derives.nullable _ [] _ (h.primary hmark hfunction) hmark rfl
    simpa using hd

theorem derives_render_generic {base : String} {args : List TypeExpr}
    (hbase : Name.isQualified base.toList) (hne : args ≠ [])
    (hargs : ∀ arg ∈ args, Derives .argument arg.render.toList arg.normalize) :
    Derives .type (generic base args).render.toList (generic base args).normalize := by
  obtain ⟨items, hsnd, hlisted, hitems⟩ := exists_listed_render hargs
  have hitemsNe : items ≠ [] := by
    rintro rfl
    cases args with
    | nil => exact hne rfl
    | cons arg args => cases hsnd
  have hd := @Derives.generic base [] [] _ [] items hbase rfl rfl rfl hitemsNe hlisted hitems nofun
  rw [hsnd] at hd
  rw [render, normalize]
  apply Derives.plain
  simpa using hd

theorem Derives.unique {text : List Char} {type other : TypeExpr} (h : Derives .type text type)
    (hother : Derives .type text other) : type = other := by
  have hread : read (Lexeme.ofText text) = .ok type := h.reads
  have hreadOther : read (Lexeme.ofText text) = .ok other := hother.reads
  rw [hread] at hreadOther
  exact Except.ok.inj hreadOther

/-- Text that names the unit type derives the simple type of that name and nothing else. -/
theorem Derives.eq_simple_of_unitName {text : List Char} {type : TypeExpr}
    (h : Derives .type text type) (hname : String.ofList (Text.trim text) ∈ unitNames) :
    type = simple (String.ofList (Text.trim text)) := by
  have hqualified : ∀ name ∈ unitNames, Name.isQualified name.toList := by decide
  have hsimple := derives_render_name (hqualified _ hname)
  rw [String.toList_ofList] at hsimple
  exact h.unique (.of_trim (.plain hsimple))

theorem trim_unitName : ∀ name ∈ unitNames,
    String.ofList (Text.trim (' ' :: name.toList)) ∈ unitNames := by
  decide

theorem derives_render_result {result : TypeExpr}
    (h : result ≠ unit → Derives .type result.render.toList result.normalize) :
    Derives .result (' ' :: result.render.toList) result.normalize.asResult := by
  by_cases hunit : result = unit
  · subst hunit
    exact .unit (by decide)
  · have hpad : Derives .type ([' '] ++ result.render.toList ++ []) result.normalize :=
      (h hunit).pad rfl rfl
    rw [List.append_nil] at hpad
    by_cases hname : String.ofList (Text.trim (' ' :: result.render.toList)) ∈ unitNames
    · have htype := hpad.eq_simple_of_unitName hname
      have hnamed : result.normalize.isNamedUnit := by
        rw [htype]
        exact decide_eq_true hname
      rw [asResult, if_pos hnamed]
      exact .unit hname
    · have hnamed : ¬result.normalize.isNamedUnit := by
        rw [isNamedUnit_normalize]
        intro hnamed
        obtain ⟨name, hmem, rfl⟩ := exists_of_isNamedUnit hnamed
        exact hname (trim_unitName name hmem)
      rw [asResult, if_neg hnamed]
      exact .value hname hpad

theorem derives_render_function {suspending : Bool} {params : List TypeExpr} {result : TypeExpr}
    (hparams : ∀ param ∈ params, Derives .type param.render.toList param.normalize)
    (hresult : result ≠ unit → Derives .type result.render.toList result.normalize) :
    Derives .type (function suspending params result).render.toList
      (function suspending params result).normalize := by
  obtain ⟨items, hsnd, hlisted, hitems⟩ := exists_listed_render hparams
  have hd := @Derives.function suspending [] [] _ [' '] _ items _ rfl rfl rfl hlisted hitems
    (derives_render_result hresult)
  rw [hsnd] at hd
  rw [render, normalize]
  cases suspending with
  | false => simpa [wordOf] using hd
  | true => simpa [wordOf] using hd

/-- The canonical text of a well-formed type derives its normal form. -/
theorem WellFormed.derives {type : TypeExpr} (h : WellFormed type) :
    Derives .type type.render.toList type.normalize := by
  induction h with
  | simple hname => exact .plain (derives_render_name hname)
  | nullable _ hmark ih => exact derives_render_nullable ih hmark
  | generic hbase hne _ ih =>
    apply derives_render_generic hbase hne
    intro arg harg
    by_cases hstar : arg = wildcard
    · subst hstar
      exact @Derives.star [] [] rfl rfl
    · exact .item (ih arg harg hstar)
  | function _ _ ihParams ihResult => exact derives_render_function ihParams ihResult

theorem wellFormed_of_parse {signature : String} {type : TypeExpr}
    (h : parse signature = .ok type) : WellFormed type :=
  (derives_of_parse h).wellPlaced

theorem WellFormed.parse_render_normalize {type : TypeExpr} (h : WellFormed type) :
    parse type.render = .ok type.normalize :=
  parse_of_derives h.derives

theorem parse_name {name : String} (h : Name.isQualified name.toList) :
    parse name = .ok (simple name) :=
  (WellFormed.simple h).parse_render_normalize

/-- The key of a signature is the canonical text of its type. -/
theorem key_eq_render {signature : String} {type : TypeExpr} (h : parse signature = .ok type) :
    key signature = type.render := by
  rw [key, h]

/-- Reading and writing types are inverse: what is read is well-formed, and the canonical text of a
well-formed type is read as its normal form, which is the type itself if no function in it has a
result that is named for the unit type. -/
theorem parse_render_inverse :
    (∀ signature type, parse signature = .ok type → WellFormed type) ∧
      ∀ type, WellFormed type → parse type.render = .ok type.normalize ∧
        (type.returnsNamedUnit = false → parse type.render = .ok type) := by
  refine ⟨fun _ _ => wellFormed_of_parse, fun type htype => ⟨htype.parse_render_normalize, ?_⟩⟩
  intro hnamed
  rw [htype.parse_render_normalize, normalize_eq_self type hnamed]

theorem parse_render_inverse_listener :
    WellFormed (nullable (function true [generic "Map" [wildcard]] unit)) ∧
      returnsNamedUnit (nullable (function true [generic "Map" [wildcard]] unit)) = false ∧
      parse "(suspend (Map<*>) -> Unit)?" =
        .ok (nullable (function true [generic "Map" [wildcard]] unit)) := by
  have hwell : WellFormed (nullable (function true [generic "Map" [wildcard]] unit)) := by
    refine .nullable (.function ?_ (fun hunit => absurd rfl hunit)) (by simp [isNullable])
    intro param hparam
    rw [List.mem_singleton.mp hparam]
    refine .generic (by decide) (by simp) ?_
    intro arg harg hstar
    exact absurd (List.mem_singleton.mp harg) hstar
  have hrender : render (nullable (function true [generic "Map" [wildcard]] unit)) =
      "(suspend (Map<*>) -> Unit)?" := by
    decide
  have hparse := ((parse_render_inverse.2 _ hwell).2 rfl)
  have hread := parse_render_inverse.1 _ _ hparse
  rw [hrender] at hparse
  exact ⟨hread, rfl, hparse⟩

end HolderInjection.TypeExpr
