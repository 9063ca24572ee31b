import HolderInjection.Consumer.Basic
import HolderInjection.Distinct
import HolderInjection.TypeExpr.Key

/-!
# Field tables

An injected parameter is served by a field of the consumer. A field of the very type comes first;
a nullable parameter also takes a field of the type without its question mark; and a parameter of
a simple type takes the only field of a simple type of that last name. Of two fields of one type
the one declared first is found.
-/

namespace HolderInjection

namespace TypeExpr

/-- The last segment of the name of a simple type. -/
def simpleName? : TypeExpr → Option String
  | simple name => some (Name.simple name)
  | _ => none

end TypeExpr

/-- The fields of a consumer, by their types. -/
structure FieldTable where
  consumer : String
  /-- For every key of a type, the first field of the type. -/
  byKey : List (String × String)
  /-- For every last name of a simple type that is declared once, its field. -/
  bySimpleName : List (String × String)
  deriving DecidableEq, Repr

namespace FieldTable

/-- The fields under the keys of their types. -/
def keyed (fields : List SharedField) : List (String × String) :=
  fields.map fun field => (TypeExpr.key field.signature, field.name)

/-- The fields of a simple type under the last names of their types. -/
def named (fields : List SharedField) : List (String × String) :=
  fields.filterMap fun field =>
    ((TypeExpr.parse? field.signature).bind TypeExpr.simpleName?).map (·, field.name)

/-- The entries whose key occurs once. -/
def unique (entries : List (String × String)) : List (String × String) :=
  entries.filter fun entry => (entries.map (·.1)).count entry.1 = 1

/-- The field table of a consumer. -/
def ofExposure (exposure : Exposure) : FieldTable where
  consumer := exposure.consumer
  byKey := distinctOn (·.1) (keyed exposure.fields)
  bySimpleName := unique (named exposure.fields)

/-- The field of the very type. -/
def findExact (table : FieldTable) (signature : String) : Option String :=
  table.byKey.lookup (TypeExpr.key signature)

/-- The field of a nullable type without its question mark. -/
def findNonNull (table : FieldTable) (signature : String) : Option String :=
  match TypeExpr.parse? signature with
  | some (.nullable inner) => table.byKey.lookup inner.render
  | _ => none

/-- The only field of a simple type with the same last name, question mark aside. -/
def findBySimpleName (table : FieldTable) (signature : String) : Option String := do
  let type ← TypeExpr.parse? signature
  table.bySimpleName.lookup (← type.nonNull.simpleName?)

/-- The field that serves a parameter of a type. -/
def find (table : FieldTable) (signature : String) : Option String :=
  table.findExact signature <|> table.findNonNull signature <|> table.findBySimpleName signature

end FieldTable

end HolderInjection
