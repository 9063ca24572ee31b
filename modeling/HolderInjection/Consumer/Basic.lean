import HolderInjection.Holder.Basic
import HolderInjection.TypeExpr.Parser

/-!
# Consumers

A consumer is a class that uses state holders and offers its shared fields to them. It uses a
holder if one of its properties is of the holder's type, or of a generic type whose first argument
is; a question mark makes no difference at either place.
-/

namespace HolderInjection

namespace TypeExpr

/-- Whether a type refers to a class, or to a generic that is given the class first. -/
def mentions (className : String) (type : TypeExpr) : Bool :=
  type.reference? = some className ||
    match type.nonNull with
    | generic _ (first :: _) => first.reference? = some className
    | _ => false

end TypeExpr

/-- A consumer in its role for a state holder: the fields it offers. -/
structure Exposure where
  consumer : String
  fields : List SharedField := []
  deriving DecidableEq, Repr

/-- A class that uses state holders. -/
structure Consumer where
  /-- The name of the class within its package. -/
  className : String
  package : String
  propertyTypes : List String := []
  shared : List SharedField := []
  deriving DecidableEq, Repr

namespace Consumer

def qualifiedName (consumer : Consumer) : String :=
  Name.qualify consumer.package consumer.className

def exposure (consumer : Consumer) : Exposure :=
  ⟨consumer.qualifiedName, consumer.shared⟩

/-- Whether a consumer uses the holder of a qualified name. A property whose type cannot be read
uses none. -/
def uses (consumer : Consumer) (holder : String) : Bool :=
  consumer.propertyTypes.any fun signature =>
    (TypeExpr.parse? signature).any (·.mentions holder)

end Consumer

end HolderInjection
