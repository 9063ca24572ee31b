import HolderInjection.Proofs.HolderUsage
import HolderInjection.Proofs.PassResult
import Mathlib.Data.List.Forall2

/-!
# Dispatch on the consumer

The generated module has a factory for every enabled holder. A factory tells consumers apart
exactly if its holder has an injected parameter and a consumer refers to it; it then has a branch
for every such consumer, in which the injected parameters come from the fields of that consumer.
-/

namespace HolderInjection

namespace Plan

/-- The argument of a parameter, whose type has a field according to `find`. Nothing is said about
a parameter that is not injected. -/
structure ArgumentFor (find : String → Option String) (parameter : Parameter)
    (argument : Argument) : Prop where
  name : argument.name = parameter.name
  field : parameter.injected → ∀ field,
    argument.expression = "viewModel." ++ field ↔ find parameter.signature = some field
  missing : parameter.injected → find parameter.signature = none →
    argument.expression =
      "throw IllegalArgumentException(\"Missing parameter: " ++ parameter.name ++ "\")"

/-- The construction of a holder, the types of whose parameters have fields according to `find`. -/
structure ConstructionFor (find : String → Option String) (holder : Holder)
    (construction : Construction) : Prop where
  reference : construction.reference = holder.qualifiedName
  arguments : List.Forall₂ (ArgumentFor find) holder.parameters construction.arguments

/-- The branch of a consumer, which goes by the fields of that consumer. -/
structure BranchFor (holder : Holder) (consumer : Consumer) (branch : Branch) : Prop where
  name : branch.consumer = consumer.qualifiedName
  construction : ConstructionFor (FieldTable.ofExposure consumer.exposure).find holder
    branch.construction

/-- The factory of a holder, with a branch for every consumer that refers to the holder if it has
injected parameters. -/
structure FactoryFor (consumers : List Consumer) (holder : Holder) (factory : Factory) : Prop where
  qualifiedName : factory.qualifiedName = holder.qualifiedName
  className : factory.className = holder.className
  dispatches : factory.dispatches ↔ (∃ parameter ∈ holder.parameters, parameter.injected) ∧
    ∃ consumer ∈ consumers, consumer.RefersTo holder.qualifiedName
  branches : factory.dispatches → factory.construction = none ∧
    List.Forall₂ (BranchFor holder)
      (consumers.filter (·.RefersTo holder.qualifiedName)) factory.branches
  /-- Without a consumer no injected parameter has a field. -/
  construction : ¬factory.dispatches → ∃ construction,
    factory.construction = some construction ∧ ConstructionFor (fun _ => none) holder construction

/-- The field of a type in the table of a consumer, if there is a consumer. -/
def findIn (table : Option FieldTable) (signature : String) : Option String :=
  table.bind (·.find signature)

theorem ofInjected_eq (table : Option FieldTable) (signature : String) :
    Resolution.ofInjected table signature =
      match findIn table signature with
      | some field => .field field
      | none => .missing (table.map (·.consumer)) := by
  cases table with
  | none => rfl
  | some table =>
    change (match table.find signature with | some name => _ | none => _ : Resolution) =
      match table.find signature with | some name => _ | none => _
    cases table.find signature <;> rfl

/-- An expression that fails reads no field. -/
theorem missing_expression_ne (parameter field : String) (consumer : Option String) :
    (Resolution.missing consumer).expression parameter ≠ "viewModel." ++ field := by
  intro h
  have hlists := congrArg String.toList h
  change ("throw IllegalArgumentException(\"Missing parameter: " ++ parameter ++ "\")").toList = _
    at hlists
  simp only [String.toList_append, String.reduceToList, List.cons_append, List.cons.injEq] at hlists
  exact absurd hlists.1 (by decide)

theorem argumentFor_ofParameter (scopeType : String) (table : Option FieldTable)
    (parameter : Parameter) :
    ArgumentFor (findIn table) parameter (Argument.ofParameter scopeType table parameter).value := by
  have hresolution (hinjected : parameter.injected) :
      (Argument.ofParameter scopeType table parameter).value =
        (Resolution.ofInjected table parameter.signature).argument parameter.name := by
    change (Resolution.ofParameter scopeType table parameter).argument parameter.name = _
    rw [Resolution.ofParameter, if_pos hinjected]
  refine ⟨rfl, fun hinjected field => ?_, fun hinjected hnone => ?_⟩
  · rw [hresolution hinjected, ofInjected_eq]
    cases findIn table parameter.signature with
    | some found =>
      change "viewModel." ++ found = "viewModel." ++ field ↔ _
      rw [String.append_right_inj, Option.some_inj]
    | none =>
      have hne := missing_expression_ne parameter.name field (table.map (·.consumer))
      exact iff_of_false hne nofun
  · rw [hresolution hinjected, ofInjected_eq, hnone]
    rfl

theorem parameters_ofHolder (ending : String) (holder : Holder) :
    (Registration.ofHolder ending holder).parameters = holder.parameters := by
  unfold Registration.parameters Registration.ofHolder
  cases holder.parameters with
  | nil => rfl
  | cons parameter parameters => rfl

theorem constructionFor_ofRegistration (ending scopeType : String) (table : Option FieldTable)
    (holder : Holder) :
    ConstructionFor (findIn table) holder
      (Construction.ofRegistration scopeType (Registration.ofHolder ending holder) table).value := by
  refine ⟨rfl, ?_⟩
  rw [Construction.ofRegistration, Logged.value_bind, Logged.value_pure, Logged.value_mapM,
    parameters_ofHolder]
  exact List.forall₂_map_right_iff.mpr
    (List.forall₂_same.mpr fun parameter _ => argumentFor_ofParameter scopeType table parameter)

theorem branchFor_ofExposure (ending scopeType : String) (holder : Holder) (consumer : Consumer) :
    BranchFor holder consumer
      (Branch.ofExposure scopeType (Registration.ofHolder ending holder) consumer.exposure).value :=
  ⟨rfl, constructionFor_ofRegistration ending scopeType
    (some (FieldTable.ofExposure consumer.exposure)) holder⟩

section

variable {configuration : Configuration} {usage : Usage} {registration : Registration}

/-- Whether the factory of a registration tells consumers apart. -/
def Dispatches (usage : Usage) (registration : Registration) : Prop :=
  (∃ parameter ∈ registration.parameters, parameter.injected) ∧
    usage.consumersOf registration.qualifiedName ≠ []

theorem dispatches_iff :
    (registration.parameters.any (·.injected) &&
      !(usage.consumersOf registration.qualifiedName).isEmpty) ↔ Dispatches usage registration := by
  rw [Dispatches, Bool.and_eq_true, List.any_eq_true, Bool.not_eq_true', List.isEmpty_eq_false_iff]

theorem factory_of_dispatches (h : Dispatches usage registration) :
    (Factory.ofRegistration configuration usage registration).value =
      { qualifiedName := registration.qualifiedName
        className := registration.className
        consumerBase := configuration.consumerBase
        scopeType := configuration.scopeType
        branches := (usage.consumersOf registration.qualifiedName).map fun exposure =>
          (Branch.ofExposure configuration.scopeType registration exposure).value } := by
  rw [Factory.ofRegistration]
  simp only [dispatches_iff.mpr h, if_true, Logged.value_bind, Logged.value_mapM,
    Logged.value_pure]

theorem factory_of_not_dispatches (h : ¬Dispatches usage registration) :
    (Factory.ofRegistration configuration usage registration).value =
      { qualifiedName := registration.qualifiedName
        className := registration.className
        consumerBase := configuration.consumerBase
        scopeType := configuration.scopeType
        construction := (Construction.ofRegistration configuration.scopeType registration
          none).value } := by
  rw [Factory.ofRegistration]
  simp only [mt dispatches_iff.mp h, Bool.false_eq_true, if_false, Logged.value_bind,
    Logged.value_pure]

end

/-- The factory of a registered holder is the one for the consumers that refer to it, if the usage
gives these to the holder. -/
theorem factoryFor_ofRegistration (configuration : Configuration) {usage : Usage}
    {consumers : List Consumer} {holder : Holder} (ending : String)
    (husage : usage.consumersOf holder.qualifiedName =
      Usage.search consumers holder.qualifiedName) :
    FactoryFor consumers holder
      (Factory.ofRegistration configuration usage (Registration.ofHolder ending holder)).value := by
  have hconsumers : usage.consumersOf (Registration.ofHolder ending holder).qualifiedName =
      (consumers.filter (·.RefersTo holder.qualifiedName)).map (·.exposure) :=
    husage.trans (Usage.search_eq consumers holder.qualifiedName)
  have hdispatches : Dispatches usage (Registration.ofHolder ending holder) ↔
      (∃ parameter ∈ holder.parameters, parameter.injected) ∧
        ∃ consumer ∈ consumers, consumer.RefersTo holder.qualifiedName := by
    rw [Dispatches, parameters_ofHolder, hconsumers, Ne, List.map_eq_nil_iff,
      List.filter_eq_nil_iff]
    simp
  by_cases h : Dispatches usage (Registration.ofHolder ending holder)
  · have hsome : ((consumers.filter (·.RefersTo holder.qualifiedName)).map (·.exposure)) ≠ [] :=
      hconsumers ▸ h.2
    rw [factory_of_dispatches h, hconsumers, List.map_map]
    have hdispatching : Factory.dispatches ⟨holder.qualifiedName, holder.className,
        configuration.consumerBase, configuration.scopeType, none,
        (consumers.filter (·.RefersTo holder.qualifiedName)).map fun consumer =>
          (Branch.ofExposure configuration.scopeType (Registration.ofHolder ending holder)
            consumer.exposure).value⟩ := by
      simpa [Factory.dispatches] using hsome
    refine ⟨rfl, rfl, iff_of_true hdispatching (hdispatches.mp h), fun _ => ⟨rfl, ?_⟩,
      absurd hdispatching⟩
    exact List.forall₂_map_right_iff.mpr (List.forall₂_same.mpr fun consumer _ =>
      branchFor_ofExposure ending configuration.scopeType holder consumer)
  · rw [factory_of_not_dispatches h]
    refine ⟨rfl, rfl, iff_of_false Bool.false_ne_true (mt hdispatches.mpr h),
      fun hdispatching => absurd hdispatching Bool.false_ne_true, fun _ => ⟨_, rfl, ?_⟩⟩
    exact constructionFor_ofRegistration ending configuration.scopeType none holder

end Plan

namespace Pass

open Plan (FactoryFor)

variable {configuration : Configuration} {holders : List Holder} {consumers : List Consumer}

theorem factories_planned :
    (planned configuration holders consumers).factories =
      (holders.filter (·.enabled)).map fun holder =>
        (Plan.Factory.ofRegistration configuration (usage holders consumers)
          (Registration.ofHolder configuration.conventionalEnding holder)).value := by
  have hregistered : (registered configuration holders).filter (·.enabled) =
      registered configuration holders := by
    rw [registered, List.filter_map, List.filter_filter]
    simp only [Function.comp_def, Registration.ofHolder, Bool.and_self]
  rw [planned, Plan.Module.ofRegistrations]
  simp only [hregistered, Logged.value_bind, Logged.value_mapM, Logged.value_pure]
  rw [registered, List.map_map]
  rfl

/-- The plan has the factory of every enabled holder, in order. -/
theorem factoryFor_planned :
    List.Forall₂ (FactoryFor consumers) (holders.filter (·.enabled))
      (planned configuration holders consumers).factories := by
  rw [factories_planned]
  refine List.forall₂_map_right_iff.mpr (List.forall₂_same.mpr fun holder hmem => ?_)
  exact Plan.factoryFor_ofRegistration configuration configuration.conventionalEnding
    (Usage.consumersOf_ofHolders consumers hmem (List.mem_filter.mp hmem).2)

/-- What a successful pass is known to have come to. -/
theorem eq_outcome_of_result_run {result : Outcome}
    (h : (run configuration holders consumers).result = .ok result) :
    (∀ holder ∈ holders, refuses holder = false) ∧
      result = outcome configuration holders consumers := by
  rw [result_run] at h
  cases hrefused : holders.find? refuses with
  | some holder =>
    rw [hrefused] at h
    cases h
  | none =>
    rw [hrefused] at h
    exact ⟨by simpa using List.find?_eq_none.mp hrefused, (Except.ok.inj h).symm⟩

/-- A holder that asks the consumer for a user. -/
def profile : Holder :=
  { className := "ProfileStateHolder"
    package := "app"
    parameters := [{ name := "user", signature := "com.example.User", injected := true }] }

/-- A consumer with a user. -/
def screen : Consumer :=
  { className := "Screen"
    package := "app"
    propertyTypes := ["app.ProfileStateHolder"]
    shared := [{ name := "user", signature := "com.example.User" }] }

theorem accepted_profile : profile.Accepted where
  className := by decide
  package := by decide
  identifier := by decide
  packageName := by decide
  parameterName := by decide
  parameterType := by
    intro parameter hmem
    rw [List.mem_singleton.mp hmem]
    exact ⟨_, TypeExpr.parse_name (by decide)⟩
  notSelf := by decide
  sharedType := nofun

end Pass

end HolderInjection
