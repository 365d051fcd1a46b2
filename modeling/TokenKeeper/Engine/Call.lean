import TokenKeeper.Engine.Check

/-!
# Calls of an engine

What an application, or the heartbeat on its behalf, has an engine do. Each call is a program of
its own; any number of them may run at a time.
-/

namespace TokenKeeper

/-- The results that tasks of all kinds end with. -/
inductive Output
  | done
  | flag (b : Bool)
  | acquisition (r : Except AuthError Acquisition)
  | pass (p : Pass)
  | credential (c : Option Credential)
  | connection (id : ConnectionId)
  | outcome (o : ConnectionOutcome)
  | reply (r : AuthReply)
  | tokens (l : List (Except IdentityError AccessToken))
  | signedIn (r : Except AuthError (Option Credential))

/-- The calls of an engine. -/
inductive Call
  | acquire (reportFailure : Bool)
  | reauthenticate
  | ensure
  /-- A check of its own, as the heartbeat and the credential start them. -/
  | check
  | credential
  | established (c : Connection)
  | stop (id : ConnectionId)
  | shutDown
  deriving DecidableEq

namespace Call

/-- The program of a call. -/
def program (e : Engine) : Call → Program Output
  | acquire reportFailure => (e.acquire reportFailure).bind fun r => .pure (.acquisition r)
  | reauthenticate => Engine.reauthenticateAll.bind fun p => .pure (.pass p)
  | ensure => e.ensureAuthentication.bind fun b => .pure (.flag b)
  | check => e.backgroundCheck.bind fun _ => .pure .done
  | credential => Engine.credential.bind fun c => .pure (.credential c)
  | established c => (Engine.connectionEstablished c).bind fun id => .pure (.connection id)
  | stop id => (Engine.stopManaging id).bind fun b => .pure (.flag b)
  | shutDown => Engine.shutDown.bind fun _ => .pure .done

end Call

/-- The program of the worker for one connection. -/
def ConnectionJob.program (job : ConnectionJob) : Program Output :=
  (Engine.serveConnection job).bind fun o => .pure (.outcome o)

end TokenKeeper
