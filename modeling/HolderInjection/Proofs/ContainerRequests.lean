import HolderInjection.Proofs.CanonicalText
import HolderInjection.Proofs.PlannedConstructions

/-!
# Requests to the container

The holder that a check accepts can be planned, and every parameter that is not injected is the
scope or is requested by its type. What stands between the angle brackets of a request is read as
the type that was declared.
-/

namespace HolderInjection.Plan

/-- Whether a type is the one that the scope is handed as, by its full or its last name. -/
def IsScopeType (scopeType : String) (type : TypeExpr) : Prop :=
  type = .simple scopeType ∨ type = .simple (Name.simple scopeType)

/-- The expression for a value of a type, which is exactly one of the scope, a request that may
come to nothing, and a request. A requested text is read as the type, up to the names of results
that stand for the unit type. -/
structure ObtainedAs (scopeType : String) (type : TypeExpr) (expression : String) : Prop where
  scope : expression = "scope" ↔ IsScopeType scopeType type
  optional : (∃ text, expression = "getOrNull<" ++ text ++ ">()") ↔ type.isNullable
  request : (∃ text, expression = "get<" ++ text ++ ">()") ↔
    ¬IsScopeType scopeType type ∧ ¬type.isNullable
  inner : ∀ text, expression = "getOrNull<" ++ text ++ ">()" →
    TypeExpr.parse text = .ok type.nonNull.normalize
  whole : ∀ text, expression = "get<" ++ text ++ ">()" → TypeExpr.parse text = .ok type.normalize

/-- The argument of a parameter; it is requested with its type, if it is requested at all. -/
structure TypedArgument (scopeType : String) (parameter : Parameter) (argument : Argument) :
    Prop where
  name : argument.name = parameter.name
  obtained : ¬parameter.injected → ∃ type, TypeExpr.parse parameter.signature = .ok type ∧
    ObtainedAs scopeType type argument.expression
  typed : argument.expression ≠ "get()"

/-! The three kinds of expressions differ within their first letters. -/

theorem optional_ne_scope (text : String) : "getOrNull<" ++ text ++ ">()" ≠ "scope" := by
  simp [← String.toList_inj]

theorem request_ne_scope (text : String) : "get<" ++ text ++ ">()" ≠ "scope" := by
  simp [← String.toList_inj]

theorem request_ne_optional (text other : String) :
    "get<" ++ text ++ ">()" ≠ "getOrNull<" ++ other ++ ">()" := by
  simp [← String.toList_inj]

theorem request_ne_untyped (text : String) : "get<" ++ text ++ ">()" ≠ "get()" := by
  simp [← String.toList_inj]

theorem optional_ne_untyped (text : String) : "getOrNull<" ++ text ++ ">()" ≠ "get()" := by
  simp [← String.toList_inj]

theorem eq_of_enclosed_eq {front text other back : String}
    (h : front ++ text ++ back = front ++ other ++ back) : text = other :=
  String.append_right_inj front |>.mp (String.append_left_inj back |>.mp h)

section

variable {scopeType : String} {type : TypeExpr}

theorem obtainedAs_scope (h : IsScopeType scopeType type) : ObtainedAs scopeType type "scope" := by
  have hmark : ¬type.isNullable := by
    rcases h with rfl | rfl <;> exact Bool.false_ne_true
  exact {
    scope := iff_of_true rfl h
    optional := iff_of_false (fun ⟨text, heq⟩ => optional_ne_scope text heq.symm) hmark
    request := iff_of_false (fun ⟨text, heq⟩ => request_ne_scope text heq.symm) fun hplain =>
      hplain.1 h
    inner := fun text heq => absurd heq.symm (optional_ne_scope text)
    whole := fun text heq => absurd heq.symm (request_ne_scope text) }

theorem obtainedAs_optional {inner : TypeExpr} (h : TypeExpr.WellFormed inner) :
    ObtainedAs scopeType (.nullable inner) ("getOrNull<" ++ inner.render ++ ">()") where
  scope := iff_of_false (optional_ne_scope _) (by rintro (h | h) <;> cases h)
  optional := iff_of_true ⟨_, rfl⟩ rfl
  request := iff_of_false (fun ⟨text, heq⟩ => request_ne_optional text _ heq.symm) fun hplain =>
    hplain.2 rfl
  inner text heq := by
    rw [← eq_of_enclosed_eq heq]
    exact h.parse_render_normalize
  whole text heq := absurd heq.symm (request_ne_optional text _)

theorem obtainedAs_request (h : TypeExpr.WellFormed type) (hscope : ¬IsScopeType scopeType type)
    (hmark : ¬type.isNullable) :
    ObtainedAs scopeType type ("get<" ++ type.render ++ ">()") where
  scope := iff_of_false (request_ne_scope _) hscope
  optional := iff_of_false (fun ⟨text, heq⟩ => request_ne_optional _ text heq) hmark
  request := iff_of_true ⟨_, rfl⟩ ⟨hscope, hmark⟩
  inner text heq := absurd heq (request_ne_optional _ text)
  whole text heq := by
    rw [← eq_of_enclosed_eq heq]
    exact h.parse_render_normalize

end

theorem obtainedAs_ofType {signature : String} {type : TypeExpr}
    (h : TypeExpr.parse signature = .ok type) (scopeType parameter : String) :
    ObtainedAs scopeType type ((Resolution.ofType scopeType signature).expression parameter) := by
  have hwell := TypeExpr.wellFormed_of_parse h
  unfold Resolution.ofType
  rw [h]
  -- a type that was read is well-formed, so that its text is read back as the type
  cases type with
  | nullable inner =>
    cases hwell with
    | nullable hinner _ => exact obtainedAs_optional hinner
  | simple name =>
    by_cases hscope : name = scopeType ∨ name = Name.simple scopeType
    · simp only [if_pos hscope]
      exact obtainedAs_scope (hscope.imp (congrArg _) (congrArg _))
    · simp only [if_neg hscope]
      refine obtainedAs_request hwell ?_ Bool.false_ne_true
      rintro (heq | heq)
      · exact hscope (.inl (TypeExpr.simple.inj heq))
      · exact hscope (.inr (TypeExpr.simple.inj heq))
  | unit => cases hwell
  | wildcard => cases hwell
  | generic base args =>
    exact obtainedAs_request hwell (by rintro (heq | heq) <;> cases heq) Bool.false_ne_true
  | function suspending params result =>
    exact obtainedAs_request hwell (by rintro (heq | heq) <;> cases heq) Bool.false_ne_true

theorem ObtainedAs.ne_untyped {scopeType expression : String} {type : TypeExpr}
    (h : ObtainedAs scopeType type expression) : expression ≠ "get()" := by
  by_cases hscope : IsScopeType scopeType type
  · rw [h.scope.mpr hscope]
    decide
  by_cases hmark : type.isNullable
  · obtain ⟨text, rfl⟩ := h.optional.mpr hmark
    exact optional_ne_untyped text
  · obtain ⟨text, rfl⟩ := h.request.mpr ⟨hscope, hmark⟩
    exact request_ne_untyped text

theorem ofInjected_ne_untyped (table : Option FieldTable) (signature parameter : String) :
    (Resolution.ofInjected table signature).expression parameter ≠ "get()" := by
  rw [ofInjected_eq]
  cases findIn table signature with
  | some field =>
    change "viewModel." ++ field ≠ "get()"
    simp [← String.toList_inj]
  | none =>
    change "throw IllegalArgumentException(\"Missing parameter: " ++ parameter ++ "\")" ≠ "get()"
    simp [← String.toList_inj]

theorem typedArgument_ofParameter {parameter : Parameter}
    (h : ∃ type, TypeExpr.parse parameter.signature = .ok type) (scopeType : String)
    (table : Option FieldTable) :
    TypedArgument scopeType parameter (Argument.ofParameter scopeType table parameter).value := by
  obtain ⟨type, htype⟩ := h
  rw [value_ofParameter, Resolution.ofParameter]
  by_cases hinjected : parameter.injected
  · rw [if_pos hinjected]
    exact ⟨rfl, absurd hinjected, ofInjected_ne_untyped table parameter.signature parameter.name⟩
  · rw [if_neg hinjected]
    have hobtained := obtainedAs_ofType htype scopeType parameter.name
    exact ⟨rfl, fun _ => ⟨type, htype, hobtained⟩, hobtained.ne_untyped⟩

/-- The registration of a holder without faults is planned, on its own and in a module, and all its
constructions obtain every parameter that is not injected as the type that it was declared with. -/
theorem planned_with_types {conventions : Conventions} {holder : Holder}
    (h : (holder.check conventions).value.faults = []) (configuration : Configuration)
    (usage : Usage) (ending : String) :
    ∃ factory,
      (planFactory configuration usage (Registration.ofHolder ending holder)).result =
        .ok factory ∧
      (∃ module,
        (plan configuration usage [Registration.ofHolder ending holder]).result = .ok module ∧
        module.factories = if holder.enabled then [factory] else []) ∧
      factory.constructions ≠ [] ∧
      ∀ construction ∈ factory.constructions,
        List.Forall₂ (TypedArgument configuration.scopeType) holder.parameters
          construction.arguments := by
  have haccepted := Holder.faults_eq_nil_iff.mp h
  let registration := Registration.ofHolder ending holder
  have hinput : checkInput [registration] = .ok () := by
    refine checkInput_eq_ok_iff.mpr fun other hmem => ?_
    rw [List.mem_singleton.mp hmem]
    exact Registration.inputProblem?_ofHolder ending haccepted
  let module := (Module.ofRegistrations configuration usage [registration]).value
  refine ⟨(Factory.ofRegistration configuration usage registration).value, ?_, ⟨module, ?_, ?_⟩,
    constructions_ne_nil configuration usage registration, fun construction hmem => ?_⟩
  · rw [planFactory, Attempt.result_bind, Attempt.result_ofExcept, hinput]
    rfl
  · rw [plan, Attempt.result_bind, Attempt.result_ofExcept, hinput]
    rfl
  · simp only [module, Module.ofRegistrations, Logged.value_bind, Logged.value_mapM,
      Logged.value_pure, List.filter_singleton]
    have henabled : registration.enabled = holder.enabled := rfl
    rw [henabled]
    cases holder.enabled <;> rfl
  · have hparameters : registration.parameters = holder.parameters :=
      parameters_ofHolder ending holder
    obtain ⟨table, harguments⟩ := exists_arguments_eq hmem
    rw [harguments, hparameters]
    refine List.forall₂_map_right_iff.mpr (List.forall₂_same.mpr fun parameter hparameter => ?_)
    exact typedArgument_ofParameter (haccepted.parameterType parameter hparameter) _ table

/-- A holder that is given the scope, may be given a cache, and asks the consumer for a user. -/
def catalog : Holder :=
  { className := "CatalogStateHolder"
    package := "app"
    parameters :=
      [{ name := "scope", signature := "CoroutineScope" },
        { name := "cache", signature := "Map<String, *>?" },
        { name := "user", signature := "com.example.User", injected := true }] }

theorem accepted_catalog : catalog.Accepted where
  className := by decide
  package := by decide
  identifier := by decide
  packageName := by decide
  parameterName := by decide
  parameterType := by
    have hcache : TypeExpr.WellFormed (.nullable (.generic "Map" [.simple "String", .wildcard])) := by
      refine .nullable (.generic (by decide) (by simp) ?_) (by decide)
      intro arg harg hstar
      simp only [List.mem_cons, List.not_mem_nil, or_false, hstar] at harg
      rw [harg]
      exact .simple (by decide)
    have hrender : TypeExpr.render (.nullable (.generic "Map" [.simple "String", .wildcard])) =
        "Map<String, *>?" := by
      decide
    intro parameter hmem
    simp only [catalog, List.mem_cons, List.not_mem_nil, or_false] at hmem
    rcases hmem with rfl | rfl | rfl
    · exact ⟨_, TypeExpr.parse_name (by decide)⟩
    · exact ⟨_, hrender ▸ hcache.parse_render_normalize⟩
    · exact ⟨_, TypeExpr.parse_name (by decide)⟩
  notSelf := by decide
  sharedType := nofun

def catalogUsage : Usage :=
  [("app.CatalogStateHolder",
    [{ consumer := "app.Screen", fields := [{ name := "user", signature := "com.example.User" }] }])]

theorem planned_with_types_catalog :
    (catalog.check {}).value.faults = [] ∧
      ∃ factory,
        (planFactory {} catalogUsage (Registration.ofHolder "StateHolder" catalog)).result =
          .ok factory ∧
        (∃ module,
          (plan {} catalogUsage [Registration.ofHolder "StateHolder" catalog]).result =
            .ok module ∧
          module.factories = [factory]) ∧
        factory.constructions ≠ [] ∧
        ∀ construction ∈ factory.constructions,
          List.Forall₂ (TypedArgument "kotlinx.coroutines.CoroutineScope") catalog.parameters
            construction.arguments := by
  have hfaults : (catalog.check {}).value.faults = [] :=
    Holder.faults_eq_nil_iff.mpr accepted_catalog
  exact ⟨hfaults, planned_with_types hfaults {} catalogUsage "StateHolder"⟩

end HolderInjection.Plan
