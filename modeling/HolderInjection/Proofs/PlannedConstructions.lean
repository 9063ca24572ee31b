import HolderInjection.Proofs.ConsumerDispatch

/-!
# The constructions of a factory

A factory constructs its holder outright or once for every consumer. Whichever it does, it has a
construction, and each of them resolves the parameters of the holder one by one, in order.
-/

namespace HolderInjection.Plan

/-- All constructions of a factory: the one for every consumer, and those of its branches. -/
def Factory.constructions (factory : Factory) : List Construction :=
  factory.construction.toList ++ factory.branches.map (·.construction)

theorem arguments_ofRegistration (scopeType : String) (registration : Registration)
    (table : Option FieldTable) :
    (Construction.ofRegistration scopeType registration table).value.arguments =
      registration.parameters.map fun parameter =>
        (Argument.ofParameter scopeType table parameter).value := by
  rw [Construction.ofRegistration, Logged.value_bind, Logged.value_pure, Logged.value_mapM]

theorem value_ofParameter (scopeType : String) (table : Option FieldTable) (parameter : Parameter) :
    (Argument.ofParameter scopeType table parameter).value =
      (Resolution.ofParameter scopeType table parameter).argument parameter.name :=
  rfl

variable (configuration : Configuration) (usage : Usage) (registration : Registration)

/-- The tables that the constructions of a registration go by: one for every consumer, or none. -/
def tables : List (Option FieldTable) :=
  if registration.parameters.any (·.injected) &&
      !(usage.consumersOf registration.qualifiedName).isEmpty then
    (usage.consumersOf registration.qualifiedName).map fun exposure =>
      some (FieldTable.ofExposure exposure)
  else [none]

theorem tables_ne_nil : tables usage registration ≠ [] := by
  unfold tables
  split
  · rename_i h
    rw [Ne, List.map_eq_nil_iff]
    exact (dispatches_iff.mp h).2
  · exact List.cons_ne_nil _ _

theorem constructions_ofRegistration :
    (Factory.ofRegistration configuration usage registration).value.constructions =
      (tables usage registration).map fun table =>
        (Construction.ofRegistration configuration.scopeType registration table).value := by
  unfold tables Factory.constructions
  by_cases h : Dispatches usage registration
  · rw [if_pos (dispatches_iff.mpr h), factory_of_dispatches h, List.map_map]
    simp only [Option.toList_none, List.nil_append, List.map_map]
    rfl
  · rw [if_neg (mt dispatches_iff.mp h), factory_of_not_dispatches h]
    rfl

theorem constructions_ne_nil :
    (Factory.ofRegistration configuration usage registration).value.constructions ≠ [] := by
  rw [constructions_ofRegistration, Ne, List.map_eq_nil_iff]
  exact tables_ne_nil usage registration

variable {configuration usage registration}

theorem dispatches_ofRegistration_iff :
    (Factory.ofRegistration configuration usage registration).value.dispatches ↔
      Dispatches usage registration := by
  by_cases h : Dispatches usage registration
  · refine iff_of_true ?_ h
    rw [factory_of_dispatches h, Factory.dispatches, Bool.not_eq_true', List.isEmpty_eq_false_iff,
      Ne, List.map_eq_nil_iff]
    exact h.2
  · refine iff_of_false ?_ h
    rw [factory_of_not_dispatches h]
    exact Bool.false_ne_true

/-- A factory has a construction or branches, and not both. -/
theorem isSome_construction_iff :
    (Factory.ofRegistration configuration usage registration).value.construction.isSome ↔
      (Factory.ofRegistration configuration usage registration).value.branches = [] := by
  by_cases h : Dispatches usage registration
  · rw [factory_of_dispatches h]
    refine iff_of_false Bool.false_ne_true fun hnil => h.2 ?_
    exact List.map_eq_nil_iff.mp hnil
  · rw [factory_of_not_dispatches h]
    exact iff_of_true rfl rfl

theorem factories_ofRegistrations_singleton (configuration : Configuration) (usage : Usage)
    (registration : Registration) :
    (Module.ofRegistrations configuration usage [registration]).value.factories =
      if registration.enabled then
        [(Factory.ofRegistration configuration usage registration).value]
      else [] := by
  simp only [Module.ofRegistrations, Logged.value_bind, Logged.value_mapM, Logged.value_pure,
    List.filter_singleton]
  cases registration.enabled <;> rfl

/-- Every construction of a registration resolves its parameters one by one, by some table. -/
theorem exists_arguments_eq {construction : Construction}
    (hmem : construction ∈
      (Factory.ofRegistration configuration usage registration).value.constructions) :
    ∃ table, construction.arguments = registration.parameters.map fun parameter =>
      (Argument.ofParameter configuration.scopeType table parameter).value := by
  rw [constructions_ofRegistration] at hmem
  obtain ⟨table, -, rfl⟩ := List.mem_map.mp hmem
  exact ⟨table, arguments_ofRegistration _ _ _⟩

end HolderInjection.Plan
