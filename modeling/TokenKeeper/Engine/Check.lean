import TokenKeeper.Engine.Pass

/-!
# Authentication checks

A check renews the token if that is due and then runs a pass, due or not. A gate lets one check
in at a time; others give up at once. Checks in the background also see to the heartbeat, which
runs while connections are tracked and the engine has not been shut down.
-/

namespace TokenKeeper.Engine

open Program (request ofAnswer caught)

/-- Whether the current token has to be renewed. A token that has expired, or that was old when
it came, is due whatever the policy says. -/
def refreshIsDue (e : Engine) : Program Bool := do
  match ← request .currentToken with
  | none => return true
  | some t =>
    if t.isExpiredAt (← request .now) then return true
    else if t.lifetime ≤ 0 then return true
    else
      let now ← request .now
      ofAnswer (e.policy.refreshDue.isDueAt t.acquiredAt t.expiresAt now)

/-- What a check does once it is inside the gate. -/
def checkInside (e : Engine) : Program Unit := do
  if ← e.refreshIsDue then
    let _ ← e.acquire false
  let _ ← reauthenticateAll

/-- One check; `false` if another one was inside the gate. The gate is left also by a panic. -/
def ensureAuthentication (e : Engine) : Program Bool := do
  if ← request .tryEnter then
    e.checkInside.thenAlways (request .leave)
    return true
  else
    return false

/-- Starts or stops the heartbeat, as the tracked connections demand. -/
def syncHeartbeat : Program Unit := do
  request .lockHeartbeat
  let ended ← request .isShutDown
  let wanted ← if ended then pure false else Bool.not <$> request .registryIsEmpty
  let running ← request .heartbeatIsRunning
  if wanted && !running then request .startHeartbeat
  else if !wanted then request .stopHeartbeat
  request .unlockHeartbeat

/-- A check in the background. A panic ends it and goes no further. -/
def backgroundCheck (e : Engine) : Program Unit := do
  let _ ← caught do
    let _ ← e.ensureAuthentication
    syncHeartbeat

/-- Starts managing a connection that has just signed in with the current token. -/
def connectionEstablished (c : Connection) : Program ConnectionId := do
  let current ← request .currentToken
  let id ← request (.track c (Token.expiryOf current))
  syncHeartbeat
  return id

/-- Stops managing a connection; says whether it was managed. -/
def stopManaging (id : ConnectionId) : Program Bool := do
  let removed ← request (.untrack id)
  syncHeartbeat
  return removed

/-- Stops the heartbeat for good. -/
def shutDown : Program Unit := do
  request .shutDown
  syncHeartbeat

/-- What a new connection signs in with. An expired token is still handed out; a check is started
in the background unless one is inside the gate. -/
def credential : Program (Option Credential) := do
  match ← request .currentToken with
  | none => return none
  | some t =>
    if t.isExpiredAt (← request .now) then
      if !(← request .gateIsBusy) then request .spawnCheck
    let username ← request .username
    return some ⟨username, t.secret⟩

end TokenKeeper.Engine
