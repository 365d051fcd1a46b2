import TokenKeeper.Options.Provider
import TokenKeeper.Simulation.Clock

/-!
# Sessions of an application

Two things that an application does with its options in a simulated world: ask the backend for
tokens, and set up a provider, report a first connection to it and take a credential.
-/

namespace TokenKeeper.Simulation

open Identity

/-- The source of the tokens of a backend. -/
def TokenSource.ofBackend (b : Backend) (peer : Peer) (nonce : String) : TokenSource :=
  match b with
  | .managedIdentity m => .service fun now => m.getToken { peer, now, nonce }
  | .servicePrincipal p => .service fun now => p.getToken { peer, now, nonce }
  | .application _ => .scripted

/-- The scope that an application is asked for, once for every call. -/
def scopesOf (b : Backend) (calls : Nat) : List String :=
  match b with
  | .application scope => List.replicate calls scope
  | _ => []

/-- Asks for a token without a deadline. -/
def askOnce : Program (Except IdentityError AccessToken) := do
  match ← Program.request (.getToken .max) with
  | .issued t => return .ok t
  | .failed e => return .error e
  | .late => return .error (.timeout Duration.max.seconds)
  | .panicked p => .panic p

/-- One answer for each of so many calls in a row; a panic ends them. -/
def askRepeatedly : Nat → Program (List (Except IdentityError AccessToken))
  | 0 => return []
  | n + 1 => do
    let first ← askOnce
    return first :: (← askRepeatedly n)

/-- The answers of a backend to a number of calls. Where the application has called off its
request nobody is asked. -/
def answers (b : Backend) (peer : Peer) (script : List ScriptedReply) (wall : Instant)
    (calls : Nat) (cancelled : Bool) :
    Except Panic (List (Except IdentityError AccessToken)) :=
  if cancelled then .ok (List.replicate calls (.error .cancelled))
  else
    let world : World := { wall, script, source := .ofBackend b peer "" }
    match (world.complete 0 ((askRepeatedly calls).bind fun l => .pure (.tokens l))).2 with
    | .ok (.tokens l) => .ok l
    | .ok _ => .ok []
    | .error p => .error p

/-- What a provider shows after its first connection. -/
structure ProviderView where
  credential : Option Credential
  /-- The expiry of the token, where there is an engine. -/
  expiry : Option Instant

/-- How setting up a provider went. -/
structure SessionReport where
  outcome : Except (Panic ⊕ AuthError) ProviderView
  backoffs : List (Nat × IdentityError) := []
  scopes : List String := []

/-- Acquires the first token, reports a connection and takes a credential. -/
def openSession (e : Engine) (c : Connection) : Program (Except AuthError (Option Credential)) := do
  match ← e.acquire true with
  | .error error => return .error error
  | .ok _ =>
    let _ ← Engine.connectionEstablished c
    return .ok (← Engine.credential)

/-- Sets up a provider and uses it once. No time passes between the attempts. -/
def session (provider : Except AuthError Provider) (peer : Peer) (script : List ScriptedReply)
    (wall : Instant) : SessionReport :=
  match provider with
  | .error e => { outcome := .error (.inr e) }
  | .ok (.accessKey p) => { outcome := .ok ⟨some p.credential, none⟩ }
  | .ok (.engine b e) =>
    let e := { e with policy := { e.policy with backoff := .constant .zero } }
    let c : Connection := ⟨1, "client"⟩
    let world : World :=
      { wall, script, source := .ofBackend b peer "", engines := [{ engine := e }]
        connections := [{ name := "client", connection := c, servers := [] }] }
    let (world, r) := world.complete 0 ((openSession e c).bind fun r => .pure (.signedIn r))
    let expiry := (world.engine? 0).map fun s => s.store.expiry
    let outcome : Except (Panic ⊕ AuthError) ProviderView :=
      match r with
      | .error p => .error (.inl p)
      | .ok (.signedIn (.error e)) => .error (.inr e)
      | .ok (.signedIn (.ok credential)) => .ok ⟨credential, expiry⟩
      | .ok _ => .ok ⟨none, expiry⟩
    { outcome, backoffs := world.backoffs, scopes := scopesOf b world.calls }

end TokenKeeper.Simulation
