import HolderInjection.TypeExpr.Basic
import HolderInjection.TypeExpr.Shape

/-!
# Reading type signatures

A signature is read by its shape: the parts of the outermost construct are read first, then the
construct is put together. Reading never stops short: a signature is either a type expression or
fails with the first problem found.
-/

namespace HolderInjection.TypeExpr

open Lexeme (text spell trim)

/-- A signature that is no type, with the problem that was found first. -/
structure Failure where
  signature : String
  problem : Problem
  deriving DecidableEq, Repr

/-- The names that stand for the unit type where a function's result is written. -/
def unitNames : List String :=
  ["Unit", "kotlin.Unit"]

/-- The type argument that stands for any type. -/
def star : List Lexeme :=
  [.plain '*']

/-- The nullable form of a type, which must not be nullable already; `signature` is its text. -/
def mark (signature : List Lexeme) (type : TypeExpr) : Except Problem TypeExpr :=
  if type.isNullable then .error (.markedTwice (spell signature)) else .ok (nullable type)

/-- The type that is named by a text. -/
def ofName (name : List Lexeme) : Except Problem TypeExpr :=
  if Name.isQualified (text name) then .ok (simple (spell name))
  else .error (.invalidName (spell name))

/-- A parenthesized type with what follows it. -/
def ofRemainder (signature remainder : List Lexeme) (inner : TypeExpr) :
    Except Problem TypeExpr :=
  if remainder = [] then .ok inner
  else if remainder = [Shape.questionMark] then mark signature inner
  else .error (.afterParenthesis (spell remainder))

/-- Reads a type from its lexemes. -/
def read (signature : List Lexeme) : Except Problem TypeExpr :=
  match _h : Shape.of (trim signature) with
  | .error problem => .error problem
  | .ok (.function suspending params result) => do
    let params ← params.attach.mapM fun ⟨param, _hmem⟩ => read param
    if result = [] then
      .error (.noResult (spell (trim signature)))
    else if spell result ∈ unitNames then
      .ok (function suspending params unit)
    else
      return function suspending params (← read result)
  | .ok (.enclosed inner remainder) => do
    ofRemainder (trim signature) remainder (← read inner)
  | .ok (.generic base args marked) => do
    let args ← args.attach.mapM fun ⟨arg, _hmem⟩ =>
      if arg = star then .ok wildcard else read arg
    let type := generic (spell base) args
    return if marked then nullable type else type
  | .ok (.marked inner) => do
    mark (trim signature) (← read inner)
  | .ok (.named name) => ofName name
termination_by signature.length
decreasing_by
  all_goals
    have hlt := Shape.length_part_lt _h
    have hle := Lexeme.length_trim_le signature
    simp only [Shape.parts, List.mem_cons, List.not_mem_nil, or_false] at hlt
  · exact Nat.lt_of_lt_of_le (hlt _ (.inr _hmem)) hle
  · exact Nat.lt_of_lt_of_le (hlt _ (.inl rfl)) hle
  · exact Nat.lt_of_lt_of_le (hlt _ rfl) hle
  · exact Nat.lt_of_lt_of_le (hlt _ _hmem) hle
  · exact Nat.lt_of_lt_of_le (hlt _ rfl) hle

/-- One type argument: the star or a type. -/
def readArgument (arg : List Lexeme) : Except Problem TypeExpr :=
  if arg = star then .ok wildcard else read arg

/-- A signature is read by reading the parts of its shape. -/
theorem read_eq (signature : List Lexeme) :
    read signature =
      match Shape.of (trim signature) with
      | .error problem => .error problem
      | .ok (.function suspending params result) => do
        let params ← params.mapM read
        if result = [] then
          .error (.noResult (spell (trim signature)))
        else if spell result ∈ unitNames then
          .ok (function suspending params unit)
        else
          return function suspending params (← read result)
      | .ok (.enclosed inner remainder) => do
        ofRemainder (trim signature) remainder (← read inner)
      | .ok (.generic base args marked) => do
        let args ← args.mapM readArgument
        let type := generic (spell base) args
        return if marked then nullable type else type
      | .ok (.marked inner) => do
        mark (trim signature) (← read inner)
      | .ok (.named name) => ofName name := by
  have attach_mapM {β : Type} (f : List Lexeme → Except Problem β)
      (items : List (List Lexeme)) :
      (items.attach.mapM fun item => f item.1) = items.mapM f := by
    rw [List.mapM_subtype (g := f) (fun _ _ => rfl), List.unattach_attach]
  rw [read]
  split <;> rename_i h <;> simp only [h]
  · rw [← attach_mapM]
  · rw [← attach_mapM]
    rfl

/-- Reads a type signature. -/
def parse (signature : String) : Except Failure TypeExpr :=
  match read (Lexeme.ofText signature.toList) with
  | .error problem => .error ⟨signature, problem⟩
  | .ok type => .ok type

def isSignature (signature : String) : Bool :=
  (parse signature).isOk

def parse? (signature : String) : Option TypeExpr :=
  (parse signature).toOption

end HolderInjection.TypeExpr
