import HolderInjection.Holder.Basic
import HolderInjection.Log.Logged
import HolderInjection.TypeExpr.Key

/-!
# Checking state holders

Every rule is applied on its own, so that a check finds all faults of a holder at once. Warnings
never make a holder unacceptable. A holder depends on itself if an injected parameter is of its
own class; longer cycles are not looked for.
-/

namespace HolderInjection

/-- What the check takes to be conventional. -/
structure Conventions where
  ending : String := "StateHolder"
  nameLimit : Int := 40
  deriving DecidableEq, Repr

/-- A fault of a state holder, which keeps it from being registered. -/
inductive Fault where
  | missingClassName
  | missingPackage
  | invalidClassName (name : String)
  | invalidPackage (name : String)
  | missingParameterName (index : Nat)
  | invalidParameterType (parameter : String) (failure : TypeExpr.Failure)
  /-- An injected parameter is of the class itself. -/
  | selfReference (parameter className signature : String)
  | invalidSharedType (field : String) (failure : TypeExpr.Failure)
  deriving DecidableEq, Repr

inductive FaultKind where
  | missingName
  | invalidSignature
  | selfReference
  | invalidPackage
  | invalidClassName
  deriving DecidableEq, Repr

namespace Fault

def kind : Fault → FaultKind
  | missingClassName | missingPackage | missingParameterName _ => .missingName
  | invalidClassName _ => .invalidClassName
  | invalidPackage _ => .invalidPackage
  | invalidParameterType .. | invalidSharedType .. => .invalidSignature
  | selfReference .. => .selfReference

def message : Fault → String
  | missingClassName => "class_name is required and cannot be blank"
  | missingPackage => "package_name is required and cannot be blank"
  | invalidClassName name => s!"Invalid class name: {name}"
  | invalidPackage name => s!"Invalid package name: {name}"
  | missingParameterName index => s!"Constructor parameter #{index} has a blank name"
  | invalidParameterType parameter failure =>
    s!"Invalid type signature '{failure.signature}' for parameter '{parameter}': " ++
      failure.problem.message
  | selfReference _ className signature =>
    s!"Circular dependency detected: {className} depends on {signature}"
  | invalidSharedType field failure =>
    s!"Invalid type signature '{failure.signature}' for shared property '{field}': " ++
      failure.problem.message

/-- The part of the holder that a fault is found in. -/
def location : Fault → String
  | missingClassName | invalidClassName _ => "class_name"
  | missingPackage | invalidPackage _ => "package_name"
  | missingParameterName index => s!"constructor_params[{index}].name"
  | invalidParameterType parameter _ | selfReference parameter .. => parameter
  | invalidSharedType field _ => field

end Fault

/-- Something unusual about a state holder. -/
inductive Warning where
  | unconventionalName (className ending : String)
  | longParameterName (parameter : String) (limit : Int)
  deriving DecidableEq, Repr

def Warning.message : Warning → String
  | unconventionalName className ending =>
    s!"Class name '{className}' does not follow the convention of ending with '{ending}'"
  | longParameterName parameter limit =>
    s!"Parameter name '{parameter}' is longer than recommended ({limit} characters)"

/-- What a check has found. -/
structure Report where
  faults : List Fault := []
  warnings : List Warning := []
  deriving DecidableEq, Repr

namespace Report

/-- Whether a check has found no faults. -/
def isAccepted (report : Report) : Bool :=
  report.faults.isEmpty

def ofKind (report : Report) (kind : FaultKind) : List Fault :=
  report.faults.filter (·.kind = kind)

end Report

namespace Holder

def missingNames (holder : Holder) : List Fault :=
  (if Name.isMissing holder.className then [.missingClassName] else []) ++
    (if Name.isMissing holder.package then [.missingPackage] else [])

def classNameFaults (holder : Holder) : List Fault :=
  if Name.isMissing holder.className || Name.isIdentifier holder.className.toList then []
  else [.invalidClassName holder.className]

def packageFaults (holder : Holder) : List Fault :=
  if Name.isMissing holder.package || Name.isPackage holder.package.toList then []
  else [.invalidPackage holder.package]

/-- Whether a parameter is injected and, going by the text of its type, of the class itself. -/
def refersToSelf (holder : Holder) (parameter : Parameter) : Bool :=
  let simpleName := Name.simple holder.className
  parameter.injected && simpleName != "" &&
    TypeExpr.erasedName parameter.signature == simpleName

def parameterFaults (holder : Holder) (index : Nat) (parameter : Parameter) : List Fault :=
  (if Name.isMissing parameter.name then [.missingParameterName index] else []) ++
    (match TypeExpr.parse parameter.signature with
      | .ok _ => []
      | .error failure => [.invalidParameterType parameter.name failure]) ++
    (if holder.refersToSelf parameter then
      [.selfReference parameter.name holder.className parameter.signature]
    else [])

def sharedFaults (field : SharedField) : List Fault :=
  match TypeExpr.parse field.signature with
  | .ok _ => []
  | .error failure => [.invalidSharedType field.name failure]

/-- All faults of a holder: those of its names, then of its parameters, then of its fields. -/
def faults (holder : Holder) : List Fault :=
  holder.missingNames ++ holder.classNameFaults ++ holder.packageFaults ++
    (holder.parameters.mapIdx holder.parameterFaults).flatten ++
    holder.shared.flatMap sharedFaults

def warnings (conventions : Conventions) (holder : Holder) : List Warning :=
  (if Name.isMissing holder.className ||
      conventions.ending.toList.isSuffixOf holder.className.toList then []
    else [.unconventionalName holder.className conventions.ending]) ++
    (holder.parameters.filter fun parameter =>
      conventions.nameLimit < (parameter.name.length : Int)).map fun parameter =>
        .longParameterName parameter.name conventions.nameLimit

/-- What there is to say about a holder. -/
def report (conventions : Conventions) (holder : Holder) : Report :=
  ⟨holder.faults, holder.warnings conventions⟩

def check (conventions : Conventions) (holder : Holder) : Logged Report := do
  let report := holder.report conventions
  Logged.record (.checked holder.qualifiedName report.faults.length report.warnings.length)
  return report

end Holder

end HolderInjection
