import HolderInjection.Template.Problem
import HolderInjection.Template.Tree
import HolderInjection.Template.Value

/-!
# Filling in templates

A template is filled in part by part, from left to right, and the first problem ends it. A side
that is not chosen and a body that is never repeated need no values. Inside a loop the item hides
an outer value of its name, and nowhere else.
-/

namespace HolderInjection.Template

/-- The values that names stand for; of two entries for a name the first counts. -/
abbrev Context (V : Type := Value) :=
  List (String × V)

def Context.find {V : Type} (context : Context V) (name : String) : Except Problem V :=
  match context.lookup name with
  | some value => .ok value
  | none => .error (.missing name)

namespace Tree

open Fillable (print isTruthy items?)

def render {V : Type} [Fillable V] (context : Context V) : Tree → Except Problem String
  | done => .ok ""
  | text content next => do
    return content ++ (← next.render context)
  | insertion name next => do
    let value ← context.find name
    return print value ++ (← next.render context)
  | choice condition yes no next => do
    let value ← context.find condition
    let side ← if isTruthy value then yes.render context else no.render context
    return side ++ (← next.render context)
  | loop item items body next => do
    match items? (← context.find items) with
    | some values =>
      let parts ← values.mapM fun value => body.render ((item, value) :: context)
      return String.join parts ++ (← next.render context)
    | none => throw (.notIterable items)

end Tree

end HolderInjection.Template
