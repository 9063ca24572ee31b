import HolderInjection.Holder.Registration

/-!
# Input of a plan

Source text can only be generated from registrations whose names and types are given. All
registrations are looked at, whether they are to be registered or not, and one that is lacking
refuses them all. Whether a type can be read does not matter here.
-/

namespace HolderInjection.Plan

/-- The two lists of parameters of a registration. -/
inductive ParameterList where
  | factory
  | constructor
  deriving DecidableEq, Repr

/-- How a list of parameters is called in messages. -/
def ParameterList.label : ParameterList → String
  | factory => "factory_params"
  | constructor => "constructor_params"

/-- What a registration lacks. -/
inductive InputProblem where
  | missingClassName (moduleName : String)
  | missingName (list : ParameterList) (index : Nat) (className : String)
  | missingType (list : ParameterList) (index : Nat) (parameter className : String)
  deriving DecidableEq, Repr

def InputProblem.message : InputProblem → String
  | missingClassName moduleName =>
    s!"State holder class name cannot be blank (module '{moduleName}')."
  | missingName list index className =>
    s!"Parameter {list.label}[{index}] of '{className}' has a blank name."
  | missingType list index parameter className =>
    s!"Parameter '{parameter}' ({list.label}[{index}]) of '{className}' " ++
      "has a blank type signature."

/-- What a parameter lacks, given its list, its index, its name and its type. -/
def parameterProblem? (list : ParameterList) (className : String) (index : Nat)
    (name signature : String) : Option InputProblem :=
  if Name.isMissing name then some (.missingName list index className)
  else if Name.isMissing signature then some (.missingType list index name className)
  else none

/-- The first thing a registration lacks: the class name, then something in the parameters of the
factory, then something in those of the constructor. -/
def inputProblem? (registration : Registration) : Option InputProblem :=
  let check (list : ParameterList) := parameterProblem? list registration.className
  if Name.isMissing registration.className then some (.missingClassName registration.moduleName)
  else
    ((registration.factoryParameters.mapIdx fun index parameter =>
        check .factory index parameter.name parameter.signature) ++
      registration.constructorParameters.mapIdx fun index parameter =>
        check .constructor index parameter.name parameter.signature).findSome? id

/-- Refuses registrations of which one lacks something. -/
def checkInput (registrations : List Registration) : Except InputProblem Unit :=
  match registrations.findSome? inputProblem? with
  | some problem => .error problem
  | none => .ok ()

end HolderInjection.Plan
