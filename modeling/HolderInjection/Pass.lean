import HolderInjection.Source.Batch

/-!
# Passes over state holders

A pass checks all state holders of a build and generates the file that registers those that are
enabled. The first enabled holder with a fault ends it. The faults of a holder that is not enabled
are told and otherwise ignored.
-/

namespace HolderInjection.Pass

/-- Why a pass ends without a result. -/
inductive Problem where
  | rejected (className : String) (faults : List Fault)
  | generation (problem : Source.Refusal)
  deriving DecidableEq, Repr

def Problem.message : Problem → String
  | rejected className faults =>
    s!"Invalid state holder '{className}': " ++ "; ".intercalate (faults.map (·.message))
  | generation problem => problem.message

/-- A generated file. -/
structure GeneratedFile where
  package : String
  text : String
  deriving DecidableEq, Repr

/-- The result of a pass. -/
structure Outcome where
  /-- The generated file; there is none if no holder is enabled. -/
  file : Option GeneratedFile
  registrations : List Registration
  reports : List Report
  deriving DecidableEq, Repr

/-- Checks a holder, tells its warnings, and refuses it if it is enabled and has faults. -/
def examine (configuration : Configuration) (holder : Holder) : Attempt Problem Report := do
  let report ← Attempt.ofLogged (holder.check configuration.conventions)
  report.warnings.forM fun warning =>
    Attempt.record (.warned holder.qualifiedName warning.message)
  if report.isAccepted then
    return report
  else if holder.enabled then
    throw (.rejected holder.className report.faults)
  else
    Attempt.record (.ignored report.faults.length holder.qualifiedName)
    return report

/-- Generates the file that registers the enabled holders, of which `first` is the first. -/
def generate (configuration : Configuration) (holders : List Holder) (consumers : List Consumer)
    (registrations : List Registration) (first : Holder) : Attempt Problem GeneratedFile := do
  let enabled := holders.filter (·.enabled)
  let package := configuration.packageFor first
  let usage ← Attempt.ofLogged (Usage.ofHolders enabled consumers)
  Attempt.record (.generating package enabled.length (holders.length - enabled.length))
  let text ← (Source.writeFile configuration usage package
    (registrations.filter (·.enabled))).mapError .generation
  return ⟨package, text⟩

def run (configuration : Configuration) (holders : List Holder) (consumers : List Consumer) :
    Attempt Problem Outcome := do
  let reports ← holders.mapM (examine configuration)
  let registrations := holders.map (Registration.ofHolder configuration.conventionalEnding)
  match holders.find? (·.enabled) with
  | none =>
    Attempt.record .nothingEnabled
    return ⟨none, registrations, reports⟩
  | some first =>
    let file ← generate configuration holders consumers registrations first
    return ⟨some file, registrations, reports⟩

end HolderInjection.Pass
