import Lockstep.Message

/-!
# Admission of ticks

A replica applies every tick at most once and never goes back. The router remembers the last
tick that it let through and refuses a broadcast that is not later. Other messages belong to no
tick and always pass.
-/

set_option autoImplicit false

namespace Lockstep

/-- Why a broadcast is refused. -/
inductive RouteError where
  | staleTick (tick last : UInt64)
  | duplicateTick (tick : UInt64)
  deriving DecidableEq, Inhabited

/-- The text of an error. -/
def RouteError.message : RouteError → String
  | .staleTick tick last =>
    "tick " ++ toString tick.toNat ++ " is older than the last applied tick " ++ toString last.toNat
  | .duplicateTick tick => "tick " ++ toString tick.toNat ++ " was already applied"

/-- The last tick that was let through. -/
structure TickRouter where
  lastApplied : Option UInt64
  deriving DecidableEq, Inhabited

namespace TickRouter

/-- A router that has let nothing through. -/
def new : TickRouter := ⟨none⟩

/-- A router for a replica that starts from the state after a tick. -/
def startingAfter (tick : UInt64) : TickRouter := ⟨some tick⟩

/-- Let a tick through if it is later than the last one. -/
def acceptTick (router : TickRouter) (tick : UInt64) : Except RouteError TickRouter :=
  match router.lastApplied with
  | none => .ok ⟨some tick⟩
  | some last =>
    if tick = last then .error (.duplicateTick tick)
    else if tick < last then .error (.staleTick tick last)
    else .ok ⟨some tick⟩

/-- Let a message through, and remember the tick of a broadcast. -/
def accept (router : TickRouter) : ServerMessage → Except RouteError TickRouter
  | .broadcastTick tick => router.acceptTick tick.tick
  | _ => .ok router

end TickRouter
end Lockstep
