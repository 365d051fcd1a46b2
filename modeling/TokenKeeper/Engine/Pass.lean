import TokenKeeper.Engine.Acquisition

/-!
# One pass over the stale connections

A pass takes the token and the username as they are at its start, finds the connections that
signed in with an older token, and has a worker bring each of them up to date. A worker sends
`AUTH` to every connected endpoint of its connection, again up to the allowed number of times,
and records the new tag only if all of them accepted. A connection that says it was closed is no
longer tracked. Passes may overlap.
-/

namespace TokenKeeper

/-- What a pass did. -/
structure Pass where
  /-- Connections that were behind the token of the pass. -/
  stale : Nat := 0
  /-- Connections of which every connected endpoint accepted the token. -/
  reauthenticated : Nat := 0
  /-- Connections that turned out to be closed. -/
  pruned : Nat := 0
  deriving DecidableEq, Repr

namespace Pass

/-- Counts how one connection came out. -/
def count (p : Pass) : ConnectionOutcome → Pass
  | .reauthenticated => { p with reauthenticated := p.reauthenticated + 1 }
  | .disposed => { p with pruned := p.pruned + 1 }
  | .failed => p

end Pass

namespace Engine

open Program (request ofAnswer)

/-- Sends `AUTH` to one endpoint, and up to `retries` times more while it is refused. The
outcome is told to the subscribers unless the connection turns out to be closed. -/
def serveEndpoint (job : EndpointJob) (retries : Nat) : Program AuthReply := do
  match ← ofAnswer (← request (.auth job.endpoint job.username job.token.secret)) with
  | .ok () =>
    request (.notify (.connectionReauthenticated job.endpoint.address))
    return .ok ()
  | .error .disposed => return .error .disposed
  | .error error =>
    match retries with
    | 0 =>
      request (.notify (.connectionReauthenticationFailed error job.endpoint.address))
      return .error error
    | retries + 1 => serveEndpoint job retries

/-- The endpoints that are connected, asked in order. -/
def connected : List Endpoint → Program (List Endpoint)
  | [] => return []
  | e :: rest => do
    let here ← ofAnswer (← request (.isConnected e))
    let others ← connected rest
    return if here then e :: others else others

/-- Whether an endpoint said that its connection is closed. -/
def isDisposed : AuthReply → Bool
  | .error .disposed => true
  | _ => false

def isAccepted : AuthReply → Bool
  | .ok () => true
  | .error _ => false

/-- The work on one stale connection. -/
def serveConnection (job : ConnectionJob) : Program ConnectionOutcome := do
  match ← ofAnswer (← request (.endpoints job.connection)) with
  | .error .disposed =>
    let _ ← request (.untrack job.id)
    return .disposed
  | .error error =>
    request (.notify (.connectionReauthenticationFailed error job.connection.client))
    return .failed
  | .ok endpoints =>
    let jobs := (← connected endpoints).map fun e => ⟨e, job.token, job.username⟩
    let replies ← ofAnswer (← request (.together jobs))
    if replies.any isDisposed then
      let _ ← request (.untrack job.id)
      return .disposed
    else if replies.all isAccepted then
      request (.mark job.id job.token.expiresAt)
      return .reauthenticated
    else
      return .failed

/-- Starts a worker for each stale connection. -/
def startWorkers (token : Token) (username : String) :
    List Tracked → Program (List (String × WorkerId))
  | [] => return []
  | t :: rest => do
    let w ← request (.spawnWorker ⟨t.id, t.connection, token, username⟩)
    let others ← startWorkers token username rest
    return (t.connection.client, w) :: others

/-- Waits for the workers in turn. A worker that panicked is reported to the subscribers. -/
def joinWorkers (pass : Pass) : List (String × WorkerId) → Program Pass
  | [] => return pass
  | (client, w) :: rest => do
    match ← request (.joinWorker w) with
    | .ok outcome => joinWorkers (pass.count outcome) rest
    | .error _ =>
      request (.notify (.connectionReauthenticationFailed (.panicked client) client))
      joinWorkers pass rest

/-- One pass. Without a token or a username there is nothing to do. -/
def reauthenticateAll : Program Pass := do
  let token ← request .currentToken
  let username ← request .username
  match token, username with
  | some token, some username =>
    let stale ← request (.stale token.expiresAt)
    let workers ← startWorkers token username stale
    joinWorkers { stale := stale.length } workers
  | _, _ => return {}

end Engine
end TokenKeeper
