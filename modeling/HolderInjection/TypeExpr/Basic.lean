import HolderInjection.Name

/-!
# Type expressions

The type of a constructor parameter or of a property: a name, a generic with its arguments, a
function, or a nullable one of these. The unit type is kept apart from a type that is named
`Unit`, and a star projection from a type. Each expression has one canonical text.
-/

namespace HolderInjection

/-- The type of a constructor parameter or of a property. -/
inductive TypeExpr where
  /-- A type given by its name, with or without its package. -/
  | simple (name : String)
  /-- The result of a function that returns nothing. -/
  | unit
  /-- A star projection, which stands for any type argument. -/
  | wildcard
  /-- A type that also admits the null reference. -/
  | nullable (inner : TypeExpr)
  /-- A type applied to arguments. -/
  | generic (base : String) (args : List TypeExpr)
  /-- The type of a function, which may be suspending. -/
  | function (suspending : Bool) (params : List TypeExpr) (result : TypeExpr)
  deriving Repr, Inhabited

namespace TypeExpr

/-- Whether an expression is a function type at its root. -/
def isFunction : TypeExpr → Bool
  | function .. => true
  | _ => false

/-- Whether an expression is nullable at its root. -/
def isNullable : TypeExpr → Bool
  | nullable _ => true
  | _ => false

mutual

/-- The canonical text of a type expression. A nullable function is parenthesized, because its
result would take the question mark otherwise. -/
def render : TypeExpr → String
  | simple name => name
  | unit => "Unit"
  | wildcard => "*"
  | nullable inner => if inner.isFunction then "(" ++ inner.render ++ ")?" else inner.render ++ "?"
  | generic base args => base ++ "<" ++ ", ".intercalate (renderAll args) ++ ">"
  | function suspending params result =>
    (if suspending then "suspend " else "") ++
      ("(" ++ ", ".intercalate (renderAll params) ++ ") -> " ++ result.render)

def renderAll : List TypeExpr → List String
  | [] => []
  | type :: types => type.render :: renderAll types

end

/-- The texts of a list of expressions are the texts of its members. -/
theorem renderAll_eq_map (types : List TypeExpr) : renderAll types = types.map render := by
  induction types with
  | nil => rfl
  | cons type types ih => simp [renderAll, ih]

/-- The expression without a question mark at its root. -/
def nonNull : TypeExpr → TypeExpr
  | nullable inner => inner
  | type => type

/-- The name a simple type refers to, question marks aside. -/
def reference? : TypeExpr → Option String
  | simple name => some name
  | nullable inner => inner.reference?
  | _ => none

mutual

/-- Structural equality of type expressions. -/
def beq : TypeExpr → TypeExpr → Bool
  | simple a, simple b => a == b
  | unit, unit => true
  | wildcard, wildcard => true
  | nullable a, nullable b => beq a b
  | generic a as, generic b bs => a == b && beqAll as bs
  | function s as a, function t bs b => s == t && beqAll as bs && beq a b
  | _, _ => false

def beqAll : List TypeExpr → List TypeExpr → Bool
  | [], [] => true
  | a :: as, b :: bs => beq a b && beqAll as bs
  | _, _ => false

end

mutual

/-- Structural equality is equality. -/
theorem beq_iff : (a b : TypeExpr) → (beq a b = true ↔ a = b)
  | simple a, b => by cases b <;> simp [beq]
  | unit, b => by cases b <;> simp [beq]
  | wildcard, b => by cases b <;> simp [beq]
  | nullable a, b => by
    cases b with
    | nullable b => simp [beq, beq_iff a b]
    | _ => simp [beq]
  | generic a as, b => by
    cases b with
    | generic b bs => simp [beq, beqAll_iff as bs]
    | _ => simp [beq]
  | function s as a, b => by
    cases b with
    | function t bs b => simp [beq, beqAll_iff as bs, beq_iff a b, and_assoc]
    | _ => simp [beq]

theorem beqAll_iff : (as bs : List TypeExpr) → (beqAll as bs = true ↔ as = bs)
  | [], bs => by cases bs <;> simp [beqAll]
  | a :: as, bs => by
    cases bs with
    | nil => simp [beqAll]
    | cons b bs => simp [beqAll, beq_iff a b, beqAll_iff as bs]

end

instance : DecidableEq TypeExpr := fun a b => decidable_of_iff _ (beq_iff a b)

end TypeExpr

end HolderInjection
