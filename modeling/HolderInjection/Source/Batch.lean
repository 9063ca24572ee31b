import HolderInjection.Plan.Assembly
import HolderInjection.Source.File

/-!
# Batches of registrations

Source text is generated from registrations by planning a module and writing the plan. A batch in
which one registration lacks something is refused as a whole.
-/

namespace HolderInjection.Source

open Plan (InputProblem)

/-- Why no source text is generated. -/
inductive Refusal where
  | input (problem : InputProblem)
  | template (problem : Template.Problem)
  deriving DecidableEq, Repr

def Refusal.message : Refusal → String
  | input problem => problem.message
  | template problem => problem.message

/-- The module property of a batch of registrations. -/
def writeModule (configuration : Configuration) (usage : Usage)
    (registrations : List Registration) : Attempt Refusal String := do
  let module ← (Plan.plan configuration usage registrations).mapError .input
  (moduleText .inferred module).mapError .template

/-- The file with the module property of a batch of registrations. -/
def writeFile (configuration : Configuration) (usage : Usage) (package : String)
    (registrations : List Registration) : Attempt Refusal String := do
  let module ← (Plan.plan configuration usage registrations).mapError .input
  (fileText package module).mapError .template

/-- The factory of one registration, whether or not it is enabled. -/
def writeFactory (configuration : Configuration) (usage : Usage)
    (registration : Registration) : Attempt Refusal String := do
  let factory ← (Plan.planFactory configuration usage registration).mapError .input
  Attempt.mapError .template (Attempt.ofExcept (factoryText factory))

end HolderInjection.Source
