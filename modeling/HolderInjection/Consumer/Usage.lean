import HolderInjection.Consumer.Basic
import HolderInjection.Distinct
import HolderInjection.Log.Logged

/-!
# Usage of state holders

For every state holder that is to be registered, the consumers that use it. The consumers are
found anew for a holder name that occurs twice, but the name has one entry, at its first place.
-/

namespace HolderInjection

/-- The consumers of state holders, under the qualified names of the holders. -/
abbrev Usage := List (String × List Exposure)

namespace Usage

def consumersOf (usage : Usage) (holder : String) : List Exposure :=
  (usage.lookup holder).getD []

/-- The consumers that use a holder, in order. -/
def search (consumers : List Consumer) (holder : String) : List Exposure :=
  (consumers.filter (·.uses holder)).map (·.exposure)

def entry (consumers : List Consumer) (holder : String) : Logged (String × List Exposure) := do
  let exposures := search consumers holder
  exposures.forM fun exposure => Logged.record (.used exposure.consumer holder)
  return (holder, exposures)

/-- The usage of all holders that are to be registered. -/
def ofHolders (holders : List Holder) (consumers : List Consumer) : Logged Usage := do
  let names := (holders.filter (·.enabled)).map (·.qualifiedName)
  return distinctOn (·.1) (← names.mapM (entry consumers))

end Usage

end HolderInjection
