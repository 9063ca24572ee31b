import HolderInjection.Name

/-!
# State holders

A state holder is a class whose instances hold the state of some screen or feature. The library is
told about its constructor and about the state it shares, and whether a container is to make it.
-/

namespace HolderInjection

/-- A constructor parameter of a state holder. -/
structure Parameter where
  name : String
  signature : String
  /-- Whether the value comes from the shared state of a consumer. -/
  injected : Bool := false
  /-- The key that was declared for the shared state, if any. -/
  declaredKey : Option String := none
  deriving DecidableEq, Repr

namespace Parameter

/-- The key for the shared state. An injected parameter without a key of its own goes by its
name. -/
def key? (parameter : Parameter) : Option String :=
  if parameter.injected ∧ parameter.declaredKey.getD "" = "" then some parameter.name
  else parameter.declaredKey

end Parameter

/-- A field of a class that other classes may read. -/
structure SharedField where
  name : String
  signature : String
  isMutable : Bool := false
  deriving DecidableEq, Repr

/-- A class that holds state. -/
structure Holder where
  className : String
  package : String
  /-- The constructor parameters, in the order of declaration. -/
  parameters : List Parameter := []
  shared : List SharedField := []
  /-- Whether a container is to make the holder. -/
  enabled : Bool := true
  deriving DecidableEq, Repr

namespace Holder

def qualifiedName (holder : Holder) : String :=
  Name.qualify holder.package holder.className

def injected (holder : Holder) : List Parameter :=
  holder.parameters.filter (·.injected)

end Holder

end HolderInjection
