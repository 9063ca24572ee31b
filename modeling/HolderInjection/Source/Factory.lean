import HolderInjection.Plan.Basic
import HolderInjection.Source.Stencil
import HolderInjection.Text.Line

/-!
# Source text of factories

A factory is written from the inside out: its arguments, its constructions, the choice between
them if there is one, and the frame around them. What is inside another block is indented.
-/

namespace HolderInjection.Source

open Plan
open Template (Problem Value)

def argumentText (argument : Argument) : Except Problem String :=
  fill argumentStencil [("name", .text argument.name), ("expression", .text argument.expression)]

/-- Removes the line feeds at the end of a text. -/
def dropEndLineFeeds (text : String) : String :=
  String.ofList (Text.dropEndWhile (· == '\n') text.toList)

/-- The text of a construction. Its arguments stand on lines of their own, with a comma after
all but the last. -/
def constructionText (construction : Construction) : Except Problem String := do
  let arguments ← construction.arguments.mapM argumentText
  let text ← fill constructionStencil
    [("class", .text construction.reference),
      ("arguments", .text (",\n".intercalate (arguments.map (Text.margin ++ ·))))]
  return dropEndLineFeeds text

def branchText (branch : Branch) : Except Problem String := do
  let construction ← constructionText branch.construction
  fill branchStencil [("consumer", .text branch.consumer), ("construction", .text construction)]

/-- The text of the choice between the constructions of a factory. -/
def dispatchText (factory : Factory) : Except Problem String := do
  let branches ← factory.branches.mapM branchText
  fill dispatchStencil
    [("branches", .list (branches.map fun branch => .text (Text.indent branch))),
      ("class", .text factory.className)]

/-- The text of a factory. A construction for every consumer goes before the branches. -/
def factoryText (factory : Factory) : Except Problem String := do
  let body ←
    match factory.construction with
    | some construction => constructionText construction
    | none => dispatchText factory
  fill factoryStencil
    [("holder", .text factory.qualifiedName), ("consumer_base", .text factory.consumerBase),
      ("scope_type", .text factory.scopeType), ("body", .text (Text.indent body))]

end HolderInjection.Source
