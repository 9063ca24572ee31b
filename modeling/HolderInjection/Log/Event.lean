import HolderInjection.TypeExpr.Problem

/-!
# Events

What the library tells about its work besides its results. An event belongs to a stage of the
work and has a level; its wording is in one place.
-/

namespace HolderInjection

/-- How much attention an event asks for. -/
inductive Level where
  | debug
  | info
  /-- What was accepted although it may be a mistake. -/
  | warning
  deriving DecidableEq, Repr

/-- The part of the work an event comes from. -/
inductive Stage where
  | checking
  | usage
  | planning
  | writing
  | passing
  deriving DecidableEq, Repr

/-- Something the library tells about its work. -/
inductive Event where
  /-- A holder was checked, with so many faults and warnings. -/
  | checked (holder : String) (faults warnings : Nat)
  | used (consumer holder : String)
  /-- No shared state was found for an injected parameter, in a consumer if there is one. -/
  | unresolved (parameter : String) (consumer : Option String)
  /-- A parameter is requested without its type, because the signature has a problem. -/
  | untyped (parameter : String) (problem : TypeExpr.Problem)
  /-- A module was written, with so many factories, of which some dispatch on the consumer. The
  number of registrations left out is the one that its plan gives. -/
  | written (property : String) (factories dispatches : Nat) (skipped : Int)
  | warned (holder warning : String)
  | ignored (faults : Nat) (holder : String)
  | nothingEnabled
  | generating (package : String) (holders skipped : Nat)
  deriving DecidableEq, Repr

namespace Event

def level : Event → Level
  | checked .. | used .. | unresolved .. | untyped .. => .debug
  | written .. | ignored .. | nothingEnabled | generating .. => .info
  | warned .. => .warning

def stage : Event → Stage
  | checked .. => .checking
  | used .. => .usage
  | unresolved .. | untyped .. => .planning
  | written .. => .writing
  | warned .. | ignored .. | nothingEnabled | generating .. => .passing

def message : Event → String
  | checked holder faults warnings =>
    s!"Validated {holder}: errors={faults} warnings={warnings}"
  | used consumer holder => s!"Mapping added: {consumer} -> {holder}"
  | unresolved parameter (some consumer) =>
    s!"No shared state for injected parameter '{parameter}' ({consumer})"
  | unresolved parameter none =>
    s!"No shared state for injected parameter '{parameter}' (no consumers)"
  | untyped parameter problem =>
    s!"Falling back to untyped get() for parameter '{parameter}': {problem.message}"
  | written property factories dispatches skipped =>
    s!"Rendered state holder module: property={property} factory_count={factories} " ++
      s!"dispatch_count={dispatches} skipped={skipped}"
  | warned holder warning => s!"{holder}: {warning}"
  | ignored faults holder =>
    s!"Ignoring {faults} validation error(s) of {holder}: registration is disabled"
  | nothingEnabled => "No registration-enabled state holders found; skipping module generation"
  | generating package holders skipped =>
    s!"Generating state holder module: package={package} holders={holders} skipped={skipped}"

end Event

end HolderInjection
