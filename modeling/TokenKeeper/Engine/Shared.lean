import TokenKeeper.Engine.Check

/-!
# What the tasks of an engine share

The store, the registry, the gate of the checks, the lock and the state of the heartbeat and the
mark of a shut-down engine. Many requests ask for nothing else: their answer is decided by this
state, and this state is all that they change. They are answered here, once for everybody who
runs programs. What the clocks, the identity service, the connections and the other tasks have
to answer is left open.
-/

namespace TokenKeeper

/-- The heartbeat of an engine. -/
inductive Heartbeat
  /-- Started, and its first period has not begun. -/
  | fresh
  /-- The next tick is due at this time of the timer clock. -/
  | ticking (due : Nat)
  deriving DecidableEq, Repr

/-- The state that the tasks of one engine share. -/
structure Shared where
  store : TokenStore := {}
  registry : Registry := {}
  gateBusy : Bool := false
  heartbeatLocked : Bool := false
  heartbeat : Option Heartbeat := none
  isShutDown : Bool := false

namespace Shared

/-- The answer to a request, where the shared state decides it. The lock of the heartbeat
answers nobody while it is taken. -/
def answer? (s : Shared) (alive : Connection → Bool) : (q : Request) → Option q.Answer
  | .currentToken => some s.store.current
  | .username => some s.store.username
  | .setUsernameIfAbsent _ => some ()
  | .offer t => some (s.store.accepts t)
  | .track c tag => some (s.registry.track c tag).2
  | .stale expiry => some (s.registry.stale alive expiry).2
  | .mark _ _ => some ()
  | .untrack id => some (s.registry.untrack id).2
  | .registryIsEmpty => some s.registry.isEmpty
  | .tryEnter => some !s.gateBusy
  | .leave => some ()
  | .gateIsBusy => some s.gateBusy
  | .lockHeartbeat => if s.heartbeatLocked then none else some ()
  | .unlockHeartbeat => some ()
  | .heartbeatIsRunning => some s.heartbeat.isSome
  | .startHeartbeat => some ()
  | .stopHeartbeat => some ()
  | .isShutDown => some s.isShutDown
  | .shutDown => some ()
  | _ => none

/-- The shared state after a request has been answered. -/
def after (s : Shared) (alive : Connection → Bool) : Request → Shared
  | .setUsernameIfAbsent name => { s with store := s.store.setUsernameIfAbsent name }
  | .offer t => { s with store := s.store.offer t }
  | .track c tag => { s with registry := (s.registry.track c tag).1 }
  | .stale expiry => { s with registry := (s.registry.stale alive expiry).1 }
  | .mark id expiry => { s with registry := s.registry.mark id expiry }
  | .untrack id => { s with registry := (s.registry.untrack id).1 }
  | .tryEnter => { s with gateBusy := true }
  | .leave => { s with gateBusy := false }
  | .lockHeartbeat => { s with heartbeatLocked := true }
  | .unlockHeartbeat => { s with heartbeatLocked := false }
  | .startHeartbeat => { s with heartbeat := some .fresh }
  | .stopHeartbeat => { s with heartbeat := none }
  | .shutDown => { s with isShutDown := true }
  | _ => s

end Shared
end TokenKeeper
