import HolderInjection.Proofs.ContainerRequests
import HolderInjection.Source.Batch

/-!
# Constructor arguments

Every construction of a holder has one argument for each parameter of its constructor, in order. The
injected parameters alone are looked up at a consumer; the others are those that the factory asks
for, and get the same argument whichever consumer there is, or none.
-/

namespace HolderInjection

namespace FactoryParameter

/-- The parameters of a factory are numbered from zero. -/
theorem position_ofParameters (parameters : List Parameter) :
    (ofParameters parameters).map (·.position) =
      List.range (ofParameters parameters).length := by
  refine List.ext_getElem (by simp) fun index _ _ => ?_
  simp [ofParameters]

theorem map_ofParameters {β : Type} (f : String → String → β) (parameters : List Parameter) :
    ((ofParameters parameters).map fun parameter => f parameter.name parameter.signature) =
      (parameters.filter (!·.injected)).map fun parameter =>
        f parameter.name parameter.signature := by
  refine List.ext_getElem (by simp [ofParameters]) fun index _ _ => ?_
  simp [ofParameters]

end FactoryParameter

/-- A registration that tells of the parameters of the factory only. -/
def Registration.factoryOnly (registration : Registration) : Registration :=
  { registration with constructorParameters := [] }

namespace Plan

/-- Whether a value is looked up at a consumer, be it found there or not. -/
def Mode.isInjected : Mode → Bool
  | sharedState | missing => true
  | passThrough | container => false

theorem isInjected_mode_ofInjected (table : Option FieldTable) (signature : String) :
    (Resolution.ofInjected table signature).mode.isInjected := by
  rw [ofInjected_eq]
  cases findIn table signature <;> rfl

theorem isInjected_mode_ofType (scopeType signature : String) :
    (Resolution.ofType scopeType signature).mode.isInjected = false := by
  unfold Resolution.ofType
  split
  · rfl
  · rfl
  · split <;> rfl
  · rfl

theorem isInjected_mode_ofParameter (scopeType : String) (table : Option FieldTable)
    (parameter : Parameter) :
    (Argument.ofParameter scopeType table parameter).value.mode.isInjected =
      parameter.injected := by
  rw [value_ofParameter, Resolution.ofParameter]
  split
  · rename_i hinjected
    exact (isInjected_mode_ofInjected table parameter.signature).trans hinjected.symm
  · rename_i hinjected
    exact (isInjected_mode_ofType scopeType parameter.signature).trans
      (Bool.eq_false_iff.mpr hinjected).symm

theorem value_ofParameter_of_not_injected {scopeType : String} {table : Option FieldTable}
    {parameter : Parameter} (h : ¬parameter.injected) :
    (Argument.ofParameter scopeType table parameter).value =
      (Resolution.ofType scopeType parameter.signature).argument parameter.name := by
  rw [value_ofParameter, Resolution.ofParameter, if_neg h]

/-- How the arguments of a construction follow the constructor of a holder; `alone` is the
construction without a consumer. -/
structure Follows (scopeType : String) (holder : Holder) (registration : Registration)
    (alone construction : Construction) : Prop where
  parameters : List.Forall₂ (fun parameter argument =>
      argument.name = parameter.name ∧ argument.mode.isInjected = parameter.injected)
    holder.parameters construction.arguments
  /-- What is not injected is what the factory asks for, by its type. -/
  requested : construction.arguments.filter (!·.mode.isInjected) =
    registration.factoryParameters.map fun parameter =>
      (Resolution.ofType scopeType parameter.signature).argument parameter.name
  injected : (construction.arguments.filter (·.mode.isInjected)).map (·.name) =
    holder.injected.map (·.name)
  /-- Place by place, what is not injected is the same without a consumer. -/
  same : ∀ (index : Nat) (parameter : Parameter), holder.parameters[index]? = some parameter →
    ¬parameter.injected → construction.arguments[index]? = alone.arguments[index]?

theorem follows_ofRegistration (scopeType ending : String) (holder : Holder)
    (table : Option FieldTable) :
    Follows scopeType holder (Registration.ofHolder ending holder)
      (Construction.ofRegistration scopeType (Registration.ofHolder ending holder) none).value
      (Construction.ofRegistration scopeType (Registration.ofHolder ending holder) table).value := by
  have harguments (table : Option FieldTable) :
      (Construction.ofRegistration scopeType (Registration.ofHolder ending holder)
        table).value.arguments =
        holder.parameters.map fun parameter =>
          (Argument.ofParameter scopeType table parameter).value := by
    rw [arguments_ofRegistration, parameters_ofHolder]
  have hmode (parameter : Parameter) :
      (Argument.ofParameter scopeType table parameter).value.mode.isInjected = parameter.injected :=
    isInjected_mode_ofParameter scopeType table parameter
  constructor
  case parameters =>
    rw [harguments]
    exact List.forall₂_map_right_iff.mpr
      (List.forall₂_same.mpr fun parameter _ => ⟨rfl, hmode parameter⟩)
  case requested =>
    have hfactory := FactoryParameter.map_ofParameters (fun name signature =>
      (Resolution.ofType scopeType signature).argument name) holder.parameters
    rw [harguments, List.filter_map]
    refine Eq.trans ?_ hfactory.symm
    simp only [Function.comp_def, hmode]
    refine List.map_congr_left fun parameter hmem => value_ofParameter_of_not_injected ?_
    simpa using (List.mem_filter.mp hmem).2
  case injected =>
    rw [harguments, List.filter_map, List.map_map]
    simp only [Function.comp_def, hmode]
    rfl
  case same =>
    intro index parameter hparameter hinjected
    rw [harguments, harguments, List.getElem?_map, List.getElem?_map, hparameter, Option.map_some,
      Option.map_some, value_ofParameter_of_not_injected hinjected,
      value_ofParameter_of_not_injected hinjected]

section

variable {configuration : Configuration} {usage : Usage} {registration : Registration}

theorem result_planFactory_eq_ok_iff {factory : Factory} :
    (planFactory configuration usage registration).result = .ok factory ↔
      inputProblem? registration = none ∧
        factory = (Factory.ofRegistration configuration usage registration).value := by
  rw [planFactory, Attempt.result_bind, Attempt.result_ofExcept, checkInput,
    List.findSome?_singleton]
  cases inputProblem? registration with
  | some problem => simp [bind, Except.bind]
  | none => simp [bind, Except.bind, eq_comm]

theorem factory_without_usage :
    (Factory.ofRegistration configuration [] registration).value =
      { (Factory.ofRegistration configuration usage registration).value with
        construction :=
          (Construction.ofRegistration configuration.scopeType registration none).value
        branches := [] } := by
  have hnone : ¬Dispatches [] registration := fun h => h.2 rfl
  rw [factory_of_not_dispatches hnone]
  by_cases h : Dispatches usage registration
  · rw [factory_of_dispatches h]
  · rw [factory_of_not_dispatches h]

end

/-! A holder without injected parameters is planned from those of its factory alone. -/

section

variable {holder : Holder} (hnone : holder.injected = []) (ending : String)
include hnone

theorem filter_not_injected : (holder.parameters.filter fun parameter => !parameter.injected) =
    holder.parameters := by
  rw [List.filter_eq_self]
  intro parameter hmem
  simpa using List.filter_eq_nil_iff.mp hnone parameter hmem

theorem parameters_factoryOnly :
    (Registration.ofHolder ending holder).factoryOnly.parameters =
      holder.parameters.map fun parameter =>
        { name := parameter.name, signature := parameter.signature } := by
  have hfactory := FactoryParameter.map_ofParameters
    (fun name signature => ({ name, signature } : Parameter)) holder.parameters
  rw [filter_not_injected hnone] at hfactory
  exact hfactory

theorem construction_factoryOnly (scopeType : String) (table : Option FieldTable) :
    Construction.ofRegistration scopeType (Registration.ofHolder ending holder).factoryOnly table =
      Construction.ofRegistration scopeType (Registration.ofHolder ending holder) table := by
  have harguments : (holder.parameters.map fun parameter =>
      Argument.ofParameter scopeType table
        { name := parameter.name, signature := parameter.signature }) =
      holder.parameters.map (Argument.ofParameter scopeType table) := by
    refine List.map_congr_left fun parameter hmem => ?_
    have hinjected := List.filter_eq_nil_iff.mp hnone parameter hmem
    simp only [Argument.ofParameter, Resolution.ofParameter, hinjected]
  -- the arguments are worked out with their warnings, so it is the works that are compared
  have hworks := congrArg (List.mapM id) harguments
  rw [List.mapM_map, List.mapM_map] at hworks
  unfold Construction.ofRegistration
  rw [parameters_factoryOnly hnone, parameters_ofHolder, List.mapM_map]
  exact congrArg (fun work : Logged (List Argument) => do
    return (⟨holder.qualifiedName, ← work⟩ : Construction)) hworks

theorem factory_factoryOnly (configuration : Configuration) (usage : Usage) :
    Factory.ofRegistration configuration usage (Registration.ofHolder ending holder).factoryOnly =
      Factory.ofRegistration configuration usage (Registration.ofHolder ending holder) := by
  have hany : holder.parameters.any (·.injected) = false := by
    rw [List.any_eq_false]
    exact List.filter_eq_nil_iff.mp hnone
  have hbare : ((holder.parameters.map fun parameter =>
      ({ name := parameter.name, signature := parameter.signature } : Parameter)).any
        (·.injected)) = false := by
    rw [List.any_map, List.any_eq_false]
    exact fun _ _ => Bool.false_ne_true
  -- without an injected parameter neither of them dispatches
  simp only [Factory.ofRegistration]
  rw [parameters_factoryOnly hnone, parameters_ofHolder, hany, hbare,
    construction_factoryOnly hnone]
  rfl

theorem exists_factoryParameter {parameter : Parameter} (hmem : parameter ∈ holder.parameters) :
    ∃ factory ∈ FactoryParameter.ofParameters holder.parameters,
      factory.name = parameter.name ∧ factory.signature = parameter.signature := by
  have hfactory := FactoryParameter.map_ofParameters Prod.mk holder.parameters
  rw [filter_not_injected hnone] at hfactory
  have hpair := List.mem_map_of_mem (f := fun parameter : Parameter =>
    (parameter.name, parameter.signature)) hmem
  rw [← hfactory] at hpair
  obtain ⟨factory, hfound, heq⟩ := List.mem_map.mp hpair
  exact ⟨factory, hfound, congrArg Prod.fst heq, congrArg Prod.snd heq⟩

/-- What a parameter lacks is found when it is looked at as one of the factory's. -/
theorem inputProblem?_factoryOnly :
    inputProblem? (Registration.ofHolder ending holder).factoryOnly =
      inputProblem? (Registration.ofHolder ending holder) := by
  simp only [inputProblem?, Registration.factoryOnly, Registration.ofHolder, List.findSome?_append,
    List.mapIdx_nil, List.findSome?_nil, Option.or_none]
  split
  · rfl
  -- a parameter of the constructor is looked at only if those of the factory lack nothing
  cases hfirst : ((FactoryParameter.ofParameters holder.parameters).mapIdx fun index parameter =>
      parameterProblem? .factory holder.className index parameter.name
        parameter.signature).findSome? id with
  | some problem => rfl
  | none =>
    have hgiven := (forall_parameterProblem?_iff .factory holder.className
      FactoryParameter.name FactoryParameter.signature).mp (List.findSome?_eq_none_iff.mp hfirst)
    refine (List.findSome?_eq_none_iff.mpr ?_).symm
    refine (forall_parameterProblem?_iff .constructor holder.className Parameter.name
      Parameter.signature).mpr fun parameter hmem => ?_
    obtain ⟨factory, hfactory, hname, hsignature⟩ := exists_factoryParameter hnone hmem
    rw [← hname, ← hsignature]
    exact hgiven factory hfactory

theorem planFactory_factoryOnly (configuration : Configuration) (usage : Usage) :
    planFactory configuration usage (Registration.ofHolder ending holder).factoryOnly =
      planFactory configuration usage (Registration.ofHolder ending holder) := by
  unfold planFactory checkInput
  rw [List.findSome?_singleton, List.findSome?_singleton, inputProblem?_factoryOnly hnone,
    factory_factoryOnly hnone]

end

theorem factories_plan_singleton {configuration : Configuration} {usage : Usage}
    {registration : Registration} {module : Module}
    (h : (plan configuration usage [registration]).result = .ok module) :
    module.factories =
      if registration.enabled then
        [(Factory.ofRegistration configuration usage registration).value]
      else [] := by
  rw [plan, Attempt.result_bind, Attempt.result_ofExcept] at h
  cases hinput : checkInput [registration] with
  | error problem =>
    rw [hinput] at h
    cases h
  | ok accepted =>
    rw [hinput] at h
    cases h
    exact factories_ofRegistrations_singleton configuration usage registration

/-- The factory that is planned for a holder constructs it outright or by branches. Its
constructions follow the constructor, and do not depend on the consumer in what is not injected. If
nothing is injected, the parameters of the factory tell all there is to know. -/
theorem planned_arguments (configuration : Configuration) (usage : Usage) (ending : String)
    (holder : Holder) (factory : Factory)
    (h : (planFactory configuration usage (Registration.ofHolder ending holder)).result =
      .ok factory) :
    let registration := Registration.ofHolder ending holder
    (∀ module, (plan configuration usage [registration]).result = .ok module →
      module.factories = if holder.enabled then [factory] else []) ∧
    (factory.construction.isSome ↔ factory.branches = []) ∧
    registration.factoryParameters.map (·.position) =
      List.range registration.factoryParameters.length ∧
    (∃ alone,
      (planFactory configuration [] registration).result =
        .ok { factory with construction := some alone, branches := [] } ∧
      ∀ construction ∈ factory.constructions,
        Follows configuration.scopeType holder registration alone construction) ∧
    (holder.injected = [] →
      (planFactory configuration usage registration.factoryOnly).result = .ok factory ∧
      Source.writeFactory configuration usage registration.factoryOnly =
        Source.writeFactory configuration usage registration) := by
  intro registration
  obtain ⟨hinput, rfl⟩ := result_planFactory_eq_ok_iff.mp h
  refine ⟨fun module => factories_plan_singleton, isSome_construction_iff,
    FactoryParameter.position_ofParameters holder.parameters,
    ⟨(Construction.ofRegistration configuration.scopeType registration none).value, ?_,
      fun construction hmem => ?_⟩, fun hnone => ⟨?_, ?_⟩⟩
  · exact result_planFactory_eq_ok_iff.mpr ⟨hinput, factory_without_usage.symm⟩
  · rw [constructions_ofRegistration] at hmem
    obtain ⟨table, -, rfl⟩ := List.mem_map.mp hmem
    exact follows_ofRegistration configuration.scopeType ending holder table
  · rw [planFactory_factoryOnly hnone]
    exact h
  · unfold Source.writeFactory
    rw [planFactory_factoryOnly hnone]

/-- The catalog is given its user by a consumer, and the other two parameters whoever it is for. -/
theorem planned_arguments_catalog :
    let registration := Registration.ofHolder "StateHolder" catalog
    let factory := (Factory.ofRegistration {} catalogUsage registration).value
    (planFactory {} catalogUsage registration).result = .ok factory ∧
      (factory.construction.isSome ↔ factory.branches = []) ∧
      registration.factoryParameters.map (·.position) = [0, 1] ∧
      ∃ alone,
        (planFactory {} [] registration).result =
          .ok { factory with construction := some alone, branches := [] } ∧
        ∀ construction ∈ factory.constructions,
          Follows "kotlinx.coroutines.CoroutineScope" catalog registration alone construction := by
  intro registration factory
  have hplanned : (planFactory {} catalogUsage registration).result = .ok factory :=
    result_planFactory_eq_ok_iff.mpr
      ⟨Registration.inputProblem?_ofHolder "StateHolder" accepted_catalog, rfl⟩
  obtain ⟨-, hone, hpositions, halone, -⟩ :=
    planned_arguments {} catalogUsage "StateHolder" catalog factory hplanned
  exact ⟨hplanned, hone, hpositions, halone⟩

end Plan

end HolderInjection
