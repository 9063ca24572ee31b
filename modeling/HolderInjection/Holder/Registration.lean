import HolderInjection.Holder.Basic

/-!
# Registrations

What a container has to know about a state holder: how the module is called that registers it, and
which of its constructor parameters are left for a factory to ask for. Shared fields play no part.
-/

namespace HolderInjection

/-- A constructor parameter that is not injected. -/
structure FactoryParameter where
  name : String
  signature : String
  /-- The place among the parameters that are not injected. -/
  position : Nat
  deriving DecidableEq, Repr

/-- The registration of a state holder. -/
structure Registration where
  moduleName : String
  className : String
  package : String := ""
  factoryParameters : List FactoryParameter := []
  /-- All constructor parameters. If there are none, those of the factory are taken for all. -/
  constructorParameters : List Parameter := []
  enabled : Bool := true
  deriving DecidableEq, Repr

namespace FactoryParameter

/-- The parameters that are not injected, numbered in order. -/
def ofParameters (parameters : List Parameter) : List FactoryParameter :=
  (parameters.filter (!·.injected)).mapIdx fun position parameter =>
    ⟨parameter.name, parameter.signature, position⟩

end FactoryParameter

namespace Registration

def qualifiedName (registration : Registration) : String :=
  Name.qualify registration.package registration.className

/-- The registration of a holder, by the conventional ending of class names. -/
def ofHolder (ending : String) (holder : Holder) : Registration where
  moduleName := Name.moduleFor holder.className ending
  className := holder.className
  package := holder.package
  factoryParameters := FactoryParameter.ofParameters holder.parameters
  constructorParameters := holder.parameters
  enabled := holder.enabled

/-- The parameters that the constructor is called with. -/
def parameters (registration : Registration) : List Parameter :=
  if registration.constructorParameters.isEmpty then
    registration.factoryParameters.map fun parameter =>
      { name := parameter.name, signature := parameter.signature }
  else registration.constructorParameters

end Registration

end HolderInjection
