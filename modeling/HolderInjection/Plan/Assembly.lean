import HolderInjection.Configuration.Basic
import HolderInjection.Consumer.Usage
import HolderInjection.Plan.Input
import HolderInjection.Plan.Resolution

/-!
# Assembly of plans

A holder with an injected parameter is constructed anew for every consumer that uses it. Any other
holder, and one that no consumer uses, has one construction.
-/

namespace HolderInjection.Plan

/-- The construction of a registered holder, by the fields of a consumer if there is one. -/
def Construction.ofRegistration (scopeType : String) (registration : Registration)
    (table : Option FieldTable) : Logged Construction := do
  return ⟨registration.qualifiedName,
    ← registration.parameters.mapM (Argument.ofParameter scopeType table)⟩

def Branch.ofExposure (scopeType : String) (registration : Registration) (exposure : Exposure) :
    Logged Branch := do
  return ⟨exposure.consumer,
    ← Construction.ofRegistration scopeType registration (FieldTable.ofExposure exposure)⟩

def Factory.ofRegistration (configuration : Configuration) (usage : Usage)
    (registration : Registration) : Logged Factory := do
  let scopeType := configuration.scopeType
  let exposures := usage.consumersOf registration.qualifiedName
  let bare : Factory :=
    { qualifiedName := registration.qualifiedName
      className := registration.className
      consumerBase := configuration.consumerBase
      scopeType }
  if registration.parameters.any (·.injected) && !exposures.isEmpty then
    return { bare with branches := ← exposures.mapM (Branch.ofExposure scopeType registration) }
  else
    let construction ← Construction.ofRegistration scopeType registration none
    return { bare with construction }

/-- The module of all holders that are to be registered. -/
def Module.ofRegistrations (configuration : Configuration) (usage : Usage)
    (registrations : List Registration) : Logged Module := do
  let enabled := registrations.filter (·.enabled)
  return {
    property := configuration.propertyName
    consumerBase := configuration.consumerBase
    scopeType := configuration.scopeType
    factories := ← enabled.mapM (Factory.ofRegistration configuration usage)
    skipped := (registrations.length : Int) - enabled.length }

/-- Plans the module of registrations that lack nothing. -/
def plan (configuration : Configuration) (usage : Usage) (registrations : List Registration) :
    Attempt InputProblem Module := do
  Attempt.ofExcept (checkInput registrations)
  Attempt.ofLogged (Module.ofRegistrations configuration usage registrations)

/-- Plans the factory of a registration that lacks nothing, whether or not it is enabled. -/
def planFactory (configuration : Configuration) (usage : Usage) (registration : Registration) :
    Attempt InputProblem Factory := do
  Attempt.ofExcept (checkInput [registration])
  Attempt.ofLogged (Factory.ofRegistration configuration usage registration)

end HolderInjection.Plan
