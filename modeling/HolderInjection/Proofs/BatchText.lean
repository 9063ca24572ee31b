import HolderInjection.Proofs.SourceLayout
import HolderInjection.Source.Batch
import Mathlib.Data.List.Forall2

/-!
# Batches and single registrations

A batch comes to what its registrations come to one by one. It is refused for the first
registration that is refused on its own, enabled or not, and nothing is told before that. Otherwise
the module holds the factories of the enabled registrations as they are written on their own.
-/

namespace HolderInjection

namespace Plan

/-- A module property around the texts of its factories, with what it declares behind its name. -/
def moduleAround (property declared : String) (factories : List String) : String :=
  "val " ++ property ++ declared ++ " = module \x7b\n" ++
    (if factories = [] then "" else "\n\n".intercalate (factories.map Text.indent) ++ "\n") ++
    "\x7d"

variable (configuration : Configuration) (usage : Usage)

def factoryAlone (registration : Registration) : String :=
  (Factory.ofRegistration configuration usage registration).value.layout

theorem layout_ofRegistrations (type : String) (registrations : List Registration) :
    (Module.ofRegistrations configuration usage registrations).value.layout type =
      moduleAround configuration.propertyName (if type = "" then "" else ": " ++ type)
        ((registrations.filter (·.enabled)).map (factoryAlone configuration usage)) := by
  unfold Module.ofRegistrations Module.layout moduleAround factoryAlone
  simp only [Logged.value_bind, Logged.value_mapM, Logged.value_pure, List.map_eq_nil_iff,
    List.map_map, Function.comp_def]

end Plan

namespace Source

open Plan

variable (configuration : Configuration) (usage : Usage) (registrations : List Registration)
  (package : String)

theorem result_writeFactory (registration : Registration) :
    (writeFactory configuration usage registration).result =
      match inputProblem? registration with
      | some problem => .error (.input problem)
      | none => .ok (factoryAlone configuration usage registration) := by
  rw [writeFactory, planFactory, checkInput, List.findSome?_singleton]
  cases inputProblem? registration with
  | some problem => rfl
  | none =>
    simp only [Attempt.result_bind, Attempt.result_mapError, Attempt.result_ofExcept,
      Attempt.result_ofLogged, factoryText_eq]
    rfl

theorem writeFactory_eq_ok_iff {registration : Registration} :
    (∃ text, (writeFactory configuration usage registration).result = .ok text) ↔
      inputProblem? registration = none := by
  rw [result_writeFactory]
  cases inputProblem? registration <;> simp

theorem writeFactory_eq_error_iff {registration : Registration} {refusal : Refusal} :
    (writeFactory configuration usage registration).result = .error refusal ↔
      ∃ problem, inputProblem? registration = some problem ∧ refusal = .input problem := by
  rw [result_writeFactory]
  cases inputProblem? registration <;> simp [eq_comm]

/-- A batch in which something is lacking is refused before anything is planned or written. -/
theorem run_of_problem {problem : InputProblem}
    (h : registrations.findSome? inputProblem? = some problem) :
    (writeModule configuration usage registrations).run = ⟨.error (.input problem), []⟩ ∧
      (writeFile configuration usage package registrations).run =
        ⟨.error (.input problem), []⟩ := by
  rw [writeModule, writeFile, plan, checkInput, h]
  exact ⟨rfl, rfl⟩

theorem result_plan_of_complete (h : registrations.findSome? inputProblem? = none) :
    (plan configuration usage registrations).result =
      .ok (Module.ofRegistrations configuration usage registrations).value := by
  rw [plan, checkInput, h]
  rfl

theorem result_writeModule_of_complete (h : registrations.findSome? inputProblem? = none) :
    (writeModule configuration usage registrations).result =
      .ok (moduleAround configuration.propertyName ""
        ((registrations.filter (·.enabled)).map (factoryAlone configuration usage))) := by
  rw [writeModule, Attempt.result_bind, Attempt.result_mapError,
    result_plan_of_complete configuration usage registrations h]
  change (Attempt.mapError _ (moduleText .inferred _)).result = _
  rw [Attempt.result_mapError, result_moduleText, layout_ofRegistrations]
  rfl

theorem result_writeFile_of_complete (h : registrations.findSome? inputProblem? = none) :
    ∃ preface, (writeFile configuration usage package registrations).result =
      .ok (preface ++ moduleAround configuration.propertyName ": Module"
        ((registrations.filter (·.enabled)).map (factoryAlone configuration usage)) ++ "\n") := by
  let module := (Module.ofRegistrations configuration usage registrations).value
  refine ⟨"// @file:Suppress(\"UNUSED\")\npackage " ++ package ++ "\n\n" ++
    String.join ((imports module).map fun type => "import " ++ type ++ "\n") ++ "\n", ?_⟩
  rw [writeFile, Attempt.result_bind, Attempt.result_mapError,
    result_plan_of_complete configuration usage registrations h]
  change (Attempt.mapError _ (fileText package module)).result = _
  have hdeclared : (if Typing.declared.text = "" then "" else ": " ++ Typing.declared.text) =
      ": Module" := rfl
  rw [Attempt.result_mapError, result_fileText, ← hdeclared, ← layout_ofRegistrations]
  rfl

/-- A batch is refused, before anything is told, for the first registration that is refused on its
own; otherwise its module holds what the enabled registrations are written to on their own. -/
theorem write_batch :
    ((∃ registration ∈ registrations, ∃ refusal,
        (writeFactory configuration usage registration).result = .error refusal) →
      ∃ before registration after refusal, registrations = before ++ registration :: after ∧
        (∀ other ∈ before, ∃ text, (writeFactory configuration usage other).result = .ok text) ∧
        (writeFactory configuration usage registration).result = .error refusal ∧
        (writeModule configuration usage registrations).run = ⟨.error refusal, []⟩ ∧
        (writeFile configuration usage package registrations).run = ⟨.error refusal, []⟩) ∧
    ((∀ registration ∈ registrations, ∃ text,
        (writeFactory configuration usage registration).result = .ok text) →
      ∃ texts, List.Forall₂ (fun registration text =>
          (writeFactory configuration usage registration).result = .ok text)
          (registrations.filter (·.enabled)) texts ∧
        (writeModule configuration usage registrations).result =
          .ok (moduleAround configuration.propertyName "" texts) ∧
        ∃ preface, (writeFile configuration usage package registrations).result =
          .ok (preface ++ moduleAround configuration.propertyName ": Module" texts ++ "\n")) := by
  simp only [writeFactory_eq_ok_iff]
  constructor
  · rintro ⟨registration, hmem, refusal, hrefused⟩
    obtain ⟨problem, hproblem, -⟩ :=
      (writeFactory_eq_error_iff configuration usage).mp hrefused
    cases hfirst : registrations.findSome? inputProblem? with
    | none =>
      rw [List.findSome?_eq_none_iff.mp hfirst registration hmem] at hproblem
      cases hproblem
    | some first =>
      -- the registration that lacks something comes first, whichever was given
      obtain ⟨before, lacking, after, hsplit, hlacks, hbefore⟩ := List.findSome?_eq_some_iff.mp hfirst
      obtain ⟨hmodule, hfile⟩ := run_of_problem configuration usage registrations package hfirst
      exact ⟨before, lacking, after, .input first, hsplit, hbefore,
        (writeFactory_eq_error_iff configuration usage).mpr ⟨first, hlacks, rfl⟩, hmodule, hfile⟩
  · intro hcomplete
    have hnone := List.findSome?_eq_none_iff.mpr hcomplete
    refine ⟨_, ?_, result_writeModule_of_complete configuration usage registrations hnone,
      result_writeFile_of_complete configuration usage registrations package hnone⟩
    refine List.forall₂_map_right_iff.mpr (List.forall₂_same.mpr fun registration hmem => ?_)
    rw [result_writeFactory, hcomplete registration (List.mem_of_mem_filter hmem)]

def settings : Registration :=
  { moduleName := "SettingsModule"
    className := "SettingsStateHolder"
    package := "app"
    constructorParameters := [{ name := "store", signature := "app.Store" }] }

def nameless : Registration :=
  { moduleName := "Module", className := " ", enabled := false }

theorem write_batch_settings :
    (∃ before registration after refusal, [settings, nameless] = before ++ registration :: after ∧
      (∀ other ∈ before, ∃ text, (writeFactory {} [] other).result = .ok text) ∧
      (writeFactory {} [] registration).result = .error refusal ∧
      (writeModule {} [] [settings, nameless]).run = ⟨.error refusal, []⟩ ∧
      (writeFile {} [] "app" [settings, nameless]).run = ⟨.error refusal, []⟩) ∧
    ∃ texts, List.Forall₂ (fun registration text =>
        (writeFactory {} [] registration).result = .ok text) [settings] texts ∧
      (writeModule {} [] [settings]).result = .ok (moduleAround "stateHolderModule" "" texts) ∧
      ∃ preface, (writeFile {} [] "app" [settings]).result =
        .ok (preface ++ moduleAround "stateHolderModule" ": Module" texts ++ "\n") := by
  have hrefused : inputProblem? nameless = some (.missingClassName "Module") := by decide
  have hcomplete : inputProblem? settings = none := by decide
  constructor
  · refine (write_batch {} [] [settings, nameless] "app").1 ⟨nameless, by simp,
      .input (.missingClassName "Module"), ?_⟩
    exact (writeFactory_eq_error_iff {} []).mpr ⟨_, hrefused, rfl⟩
  · refine (write_batch {} [] [settings] "app").2 fun registration hmem => ?_
    rw [List.mem_singleton.mp hmem]
    exact (writeFactory_eq_ok_iff {} []).mpr hcomplete

end Source

end HolderInjection
