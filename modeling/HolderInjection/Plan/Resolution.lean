import HolderInjection.Consumer.FieldTable
import HolderInjection.Log.Logged
import HolderInjection.Plan.Basic

/-!
# Resolution of arguments

An injected parameter is read from the field of the consumer that serves it; without a consumer,
or without such a field, its value is missing. Any other parameter is the scope, if it is of the
scope's type, or is requested from the container: by its type, and by no type at all if that
cannot be read.
-/

namespace HolderInjection.Plan

/-- How a constructor parameter gets its value. -/
inductive Resolution where
  /-- From a field of the consumer. -/
  | field (name : String)
  /-- Not at all, looking at a consumer if there is one. -/
  | missing (consumer : Option String)
  /-- From the scope. -/
  | scope
  /-- From the container, which must know the type. -/
  | request (type : TypeExpr)
  /-- From the container, if it knows the type. -/
  | optional (type : TypeExpr)
  /-- From the container, which has to find out the type. -/
  | untyped (problem : TypeExpr.Problem)
  deriving DecidableEq, Repr

namespace Resolution

/-- The resolution of an injected parameter by the table of a consumer. -/
def ofInjected (table : Option FieldTable) (signature : String) : Resolution :=
  match table with
  | none => missing none
  | some table =>
    match table.find signature with
    | some name => field name
    | none => missing (some table.consumer)

/-- The resolution of a parameter that is not injected. A simple type is the scope's type if it
has its full or its last name. -/
def ofType (scopeType signature : String) : Resolution :=
  match TypeExpr.parse signature with
  | .error failure => untyped failure.problem
  | .ok (.nullable inner) => optional inner
  | .ok (.simple name) =>
    if name = scopeType ∨ name = Name.simple scopeType then scope else request (.simple name)
  | .ok type => request type

def ofParameter (scopeType : String) (table : Option FieldTable) (parameter : Parameter) :
    Resolution :=
  if parameter.injected then ofInjected table parameter.signature
  else ofType scopeType parameter.signature

def mode : Resolution → Mode
  | field _ => .sharedState
  | missing _ => .missing
  | scope => .passThrough
  | request _ | optional _ | untyped _ => .container

def expression (parameter : String) : Resolution → String
  | field name => "viewModel." ++ name
  | missing _ =>
    "throw IllegalArgumentException(\"Missing parameter: " ++ parameter ++ "\")"
  | scope => "scope"
  | request type => "get<" ++ type.render ++ ">()"
  | optional type => "getOrNull<" ++ type.render ++ ">()"
  | untyped _ => "get()"

/-- What there is to tell about the resolution of a parameter. -/
def event? (parameter : String) : Resolution → Option Event
  | missing consumer => some (.unresolved parameter consumer)
  | untyped problem => some (.untyped parameter problem)
  | _ => none

def argument (parameter : String) (resolution : Resolution) : Argument :=
  ⟨parameter, resolution.mode, resolution.expression parameter⟩

end Resolution

/-- The argument for a parameter, with what there is to tell about it. -/
def Argument.ofParameter (scopeType : String) (table : Option FieldTable)
    (parameter : Parameter) : Logged Argument :=
  let resolution := Resolution.ofParameter scopeType table parameter
  ⟨resolution.argument parameter.name, (resolution.event? parameter.name).toList⟩

end HolderInjection.Plan
