/-!
# Plans

A plan says what the generated module holds, down to the expression of every constructor argument,
and nothing about how it is laid out. A factory either constructs the holder outright or chooses a
construction by the type of the consumer.
-/

namespace HolderInjection.Plan

/-- Where the value of a constructor argument comes from. -/
inductive Mode where
  | sharedState
  /-- The scope that the factory is handed. -/
  | passThrough
  | container
  /-- Nowhere: the construction fails when it is run. -/
  | missing
  deriving DecidableEq, Repr

/-- A named constructor argument. -/
structure Argument where
  name : String
  mode : Mode
  expression : String
  deriving DecidableEq, Repr

/-- A call of a constructor. -/
structure Construction where
  reference : String
  arguments : List Argument := []
  deriving DecidableEq, Repr

/-- The construction for consumers of one type. -/
structure Branch where
  consumer : String
  construction : Construction
  deriving DecidableEq, Repr

/-- A factory of a state holder. -/
structure Factory where
  qualifiedName : String
  className : String
  consumerBase : String
  scopeType : String
  /-- The construction for every consumer, if there is one; it goes before the branches. -/
  construction : Option Construction := none
  branches : List Branch := []
  deriving DecidableEq, Repr

/-- Whether a factory tells consumers apart. -/
def Factory.dispatches (factory : Factory) : Bool :=
  !factory.branches.isEmpty

/-- A module with its factories. -/
structure Module where
  property : String
  consumerBase : String
  scopeType : String
  factories : List Factory
  /-- How many registrations were left out. It is only reported, so a plan made by hand may give
  any number. -/
  skipped : Int := 0
  deriving DecidableEq, Repr

/-- How many factories tell consumers apart. -/
def Module.dispatchCount (module : Module) : Nat :=
  (module.factories.filter (·.dispatches)).length

end HolderInjection.Plan
