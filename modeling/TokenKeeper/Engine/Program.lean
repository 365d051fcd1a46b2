import TokenKeeper.Connection.Registry
import TokenKeeper.Event.Basic
import TokenKeeper.Token.Store

/-!
# Programs of the engine

The work of the engine is described apart from the world in which it is done. A program is a
tree: it ends with a result or with a panic, or it asks the world for one thing and goes on with
the answer. Each question is a single access to shared state or a single contact with the
outside, so between any two of them other programs may act. How programs are scheduled, how
long answers take and what they are is up to whoever runs them.
-/

namespace TokenKeeper

/-- One server of a connection. -/
structure Endpoint where
  connection : Connection
  index : Nat
  address : String
  deriving DecidableEq, Repr

/-- The part of one stale connection in a pass. -/
structure ConnectionJob where
  id : ConnectionId
  connection : Connection
  token : Token
  username : String
  deriving DecidableEq

/-- The part of one endpoint in a pass. -/
structure EndpointJob where
  endpoint : Endpoint
  token : Token
  username : String
  deriving DecidableEq

/-- How a connection came out of a pass. -/
inductive ConnectionOutcome
  | reauthenticated
  | failed
  | disposed
  deriving DecidableEq, Repr

/-- How an endpoint answered an `AUTH` command. -/
abbrev AuthReply := Except ReauthenticationError Unit

/-- What came of asking the identity service once. -/
inductive TokenReply
  | issued (t : AccessToken)
  | failed (e : IdentityError)
  /-- No answer before the deadline. -/
  | late
  | panicked (p : Panic)
  deriving DecidableEq

/-- A task that was started for a connection. -/
structure WorkerId where
  number : Nat
  deriving DecidableEq, Repr

/-- What a program can ask of the world. -/
inductive Request
  /-- The wall clock. -/
  | now
  | sleep (d : Duration)
  | currentToken
  | username
  | setUsernameIfAbsent (name : String)
  /-- Offers a token to the store; the answer says whether it was taken. -/
  | offer (t : Token)
  /-- Asks the identity service and waits no longer than the limit. -/
  | getToken (limit : Duration)
  /-- Asks how long to wait after a failed attempt. -/
  | backoff (attempt : Nat) (error : IdentityError)
  /-- Tells the subscribers and waits until each is done or out of time. -/
  | notify (e : Event)
  | track (c : Connection) (tag : Instant)
  | stale (expiry : Instant)
  | mark (id : ConnectionId) (expiry : Instant)
  | untrack (id : ConnectionId)
  | registryIsEmpty
  /-- Lists the endpoints of a connection. -/
  | endpoints (c : Connection)
  | isConnected (e : Endpoint)
  /-- Sends `AUTH` with a username and a token. -/
  | auth (e : Endpoint) (username secret : String)
  /-- Enters the gate if nobody is inside. -/
  | tryEnter
  | leave
  | gateIsBusy
  | lockHeartbeat
  | unlockHeartbeat
  | heartbeatIsRunning
  | startHeartbeat
  /-- Stops the heartbeat, if there is one, and waits until it is gone. -/
  | stopHeartbeat
  | isShutDown
  | shutDown
  /-- Starts an authentication check of its own. -/
  | spawnCheck
  | spawnWorker (job : ConnectionJob)
  /-- Waits for a worker. -/
  | joinWorker (w : WorkerId)
  /-- Serves several endpoints at a time and waits for all; a panic of one ends them all. -/
  | together (jobs : List EndpointJob)
  deriving DecidableEq

/-- The type of the answer to a request. -/
abbrev Request.Answer : Request → Type
  | now => Instant
  | currentToken => Option Token
  | username => Option String
  | offer _ => Bool
  | getToken _ => TokenReply
  | backoff .. => Except Panic Duration
  | track .. => ConnectionId
  | stale _ => List Tracked
  | untrack _ => Bool
  | registryIsEmpty => Bool
  | endpoints _ => Except Panic (Except ReauthenticationError (List Endpoint))
  | isConnected _ => Except Panic Bool
  | auth .. => Except Panic AuthReply
  | tryEnter => Bool
  | gateIsBusy => Bool
  | heartbeatIsRunning => Bool
  | isShutDown => Bool
  | spawnWorker _ => WorkerId
  | joinWorker _ => Except Panic ConnectionOutcome
  | together _ => Except Panic (List AuthReply)
  | _ => Unit

instance decidableEqExcept {ε α : Type} [DecidableEq ε] [DecidableEq α] :
    DecidableEq (Except ε α)
  | .ok a, .ok b => decidable_of_iff (a = b) ⟨congrArg Except.ok, Except.ok.inj⟩
  | .error a, .error b => decidable_of_iff (a = b) ⟨congrArg Except.error, Except.error.inj⟩
  | .ok _, .error _ => isFalse nofun
  | .error _, .ok _ => isFalse nofun

instance Request.decidableEqAnswer (q : Request) : DecidableEq q.Answer := by
  cases q <;> exact inferInstance

/-- A description of work that ends with an `α` or with a panic. -/
inductive Program (α : Type) : Type
  | pure (a : α)
  | panic (p : Panic)
  | ask (q : Request) (resume : q.Answer → Program α)

namespace Program

variable {α β : Type}

/-- Goes on with the result. -/
def bind : Program α → (α → Program β) → Program β
  | pure a, f => f a
  | panic p, _ => panic p
  | ask q resume, f => ask q fun a => (resume a).bind f

instance : Monad Program where
  pure := pure
  bind := bind

/-- Asks one thing. -/
def request (q : Request) : Program q.Answer := ask q pure

/-- A panic of the answer becomes one of the program. -/
def ofAnswer : Except Panic α → Program α
  | .ok a => pure a
  | .error p => panic p

/-- Makes a panic an ordinary result. -/
def caught : Program α → Program (Except Panic α)
  | pure a => pure (.ok a)
  | panic p => pure (.error p)
  | ask q resume => ask q fun a => (resume a).caught

/-- Ends with `after`, also when the program panics. -/
def thenAlways (p : Program α) (after : Program Unit) : Program α :=
  p.caught.bind fun r => after.bind fun _ => ofAnswer r

@[simp] theorem pure_bind (a : α) (f : α → Program β) : (pure a).bind f = f a := rfl

@[simp] theorem panic_bind (p : Panic) (f : α → Program β) : (panic p).bind f = panic p := rfl

@[simp] theorem ask_bind (q : Request) (resume : q.Answer → Program α) (f : α → Program β) :
    (ask q resume).bind f = ask q fun a => (resume a).bind f := rfl

@[simp] theorem bind_pure (p : Program α) : p.bind pure = p := by
  induction p with
  | pure | panic => rfl
  | ask q resume ih => simp [ih]

theorem bind_assoc {γ : Type} (p : Program α) (f : α → Program β) (g : β → Program γ) :
    (p.bind f).bind g = p.bind fun a => (f a).bind g := by
  induction p with
  | pure | panic => rfl
  | ask q resume ih => simp [ih]

end Program
end TokenKeeper
