import HolderInjection.Holder.Check

/-!
# Configuration

What a build tells the library beside the classes it has found: how to call the generated module,
where to put it, which types the factories are handed, and what is conventional.
-/

namespace HolderInjection

/-- The configuration of a build. -/
structure Configuration where
  /-- What the name of the module property ends with. -/
  moduleSuffix : String := ""
  /-- The name of the project, which the module is named for if there is no suffix. -/
  projectName : String := ""
  /-- The ending of the names of state holders. -/
  conventionalEnding : String := "StateHolder"
  /-- The longest parameter name that passes without a warning. -/
  nameLimit : Int := 40
  /-- The type of the consumer that a factory is handed. -/
  consumerBase : String := "androidx.lifecycle.ViewModel"
  /-- The type of the scope that a factory is handed. -/
  scopeType : String := "kotlinx.coroutines.CoroutineScope"
  /-- The package of the generated file, if it is not blank. -/
  outputPackage : String := ""
  conventionalEnding_ne : conventionalEnding ≠ "" := by decide
  nameLimit_pos : 0 < nameLimit := by decide
  deriving DecidableEq, Repr

namespace Configuration

/-- What the name of every module property begins with. -/
def propertyStem : String :=
  "stateHolderModule"

/-- The name of the module property: told apart by the suffix, or else by the project. -/
def propertyName (configuration : Configuration) : String :=
  if !Name.isMissing configuration.moduleSuffix then
    propertyStem ++ "_" ++ configuration.moduleSuffix
  else if !Name.isMissing configuration.projectName then
    propertyStem ++ "_" ++ String.ofList (Name.sanitize configuration.projectName.toList)
  else propertyStem

def conventions (configuration : Configuration) : Conventions :=
  ⟨configuration.conventionalEnding, configuration.nameLimit⟩

/-- The package of the generated file; if it is not given, it lies within that of a holder. -/
def packageFor (configuration : Configuration) (holder : Holder) : String :=
  if Name.isMissing configuration.outputPackage then holder.package ++ ".generated"
  else configuration.outputPackage

end Configuration

end HolderInjection
