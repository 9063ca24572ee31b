import HolderInjection.Distinct
import HolderInjection.Log.Logged
import HolderInjection.Source.Factory

/-!
# Source text of modules and files

A module property holds its factories, separated by empty lines. A file adds its package and the
imports that the module needs.
-/

namespace HolderInjection.Source

open Template (Problem Value)

/-- Whether the module property declares its type. -/
inductive Typing where
  | inferred
  | declared
  deriving DecidableEq, Repr

/-- The type that a module property declares; it is empty if none is declared. -/
def Typing.text : Typing → String
  | inferred => ""
  | declared => "Module"

/-- What there is to tell about the writing of a module. -/
def writtenEvent (module : Plan.Module) : Event :=
  .written module.property module.factories.length module.dispatchCount module.skipped

def moduleText (typing : Typing) (module : Plan.Module) : Attempt Problem String := do
  let factories ← Attempt.ofExcept (module.factories.mapM factoryText)
  Attempt.record (writtenEvent module)
  Attempt.ofExcept <| fill moduleStencil
    [("property", .text module.property), ("type", .text typing.text),
      ("factories", .text ("\n\n".intercalate (factories.map Text.indent)))]

/-- The types that every generated file imports. -/
def containerImports : List String :=
  ["org.koin.core.module.Module", "org.koin.dsl.module"]

/-- The imports of a file: those types handed to factories that have a package, in order of their
names, and then the types of the container. -/
def imports (module : Plan.Module) : List String :=
  let handed := [module.consumerBase, module.scopeType].filter (·.toList.contains '.')
  distinct (handed.mergeSort (fun a b => decide (a ≤ b)) ++ containerImports)

def fileText (package : String) (module : Plan.Module) : Attempt Problem String := do
  let property ← moduleText .declared module
  let text ← Attempt.ofExcept <| fill fileStencil
    [("package", .text package), ("imports", .list ((imports module).map .text)),
      ("module", .text property)]
  return text ++ "\n"

end HolderInjection.Source
