import TokenKeeper.Engine.Call
import TokenKeeper.Engine.Shared
import TokenKeeper.Event.Subscriptions
import TokenKeeper.Simulation.Script

/-!
# The simulated world

All that simulated programs can see or change: two clocks, the script of the identity service,
the connections, the subscribers and the engines with their stores and registries. The wall
clock stands still unless it is set; the timer clock moves only when every task waits.
-/

namespace TokenKeeper.Simulation

/-- A server of a simulated connection. -/
structure ServerState where
  address : String
  connected : Bool := true
  /-- Answers to the next `AUTH` commands; afterwards all are accepted. -/
  answers : List AuthAnswer := []

/-- A simulated connection. -/
structure ConnectionState where
  name : String
  connection : Connection
  servers : List ServerState
  mode : ServersMode := .listed
  alive : Bool := true
  /-- How often its servers were asked for. -/
  lookups : Nat := 0

/-- An engine with all that its tasks share. -/
structure EngineState extends Shared where
  engine : Engine
  /-- Whether the application still holds the engine. -/
  held : Bool := true

/-- What a task that asks for a token waits for. -/
inductive ReplyStage
  | hanging
  /-- Goes on at a tick of the timer; one that was released goes on at once. -/
  | delayed (tick : Nat) (next : ScriptedReply)
  /-- Goes on when it is released. -/
  | held (next : ScriptedReply)

/-- What a task waits for, and how it goes on. -/
inductive Wait
  | timer (tick : Nat) (resume : Program Output)
  | token (deadline : Nat) (stage : ReplyStage) (resume : TokenReply → Program Output)
  | heartbeatLock (resume : Program Output)
  /-- The end of a check that the application started. -/
  | ended (id : Nat)
  | worker (id : WorkerId) (resume : Except Panic ConnectionOutcome → Program Output)
  /-- The replies of the endpoints so far, by task. -/
  | members (replies : List (Nat × Option AuthReply))
      (resume : Except Panic (List AuthReply) → Program Output)

inductive TaskState
  | ready (p : Program Output)
  | waiting (w : Wait)
  | finished (r : Except Panic Output)

/-- Why a task exists. -/
inductive Role
  /-- What the application waits for. -/
  | foreground
  /-- A check of its own; nobody waits for it. -/
  | check
  /-- A check that the application started and may wait for. -/
  | ensure
  | worker
  /-- Serves an endpoint for the task with this number. -/
  | member (parent : Nat)
  deriving DecidableEq, Repr

/-- A running program. -/
structure Task where
  id : Nat
  engine : Nat
  role : Role
  state : TaskState

/-- Who can take a turn. -/
inductive Turn
  | task (id : Nat)
  /-- The heartbeat of an engine. -/
  | heartbeat (engine : Nat)
  deriving DecidableEq, Repr

/-- Where tokens come from. -/
inductive TokenSource
  /-- The script of the world. -/
  | scripted
  /-- A service that answers at once, from the time on the wall clock. -/
  | service (reply : Instant → Except IdentityError AccessToken)

/-- The simulated world. -/
structure World where
  wall : Instant
  /-- Nanoseconds on the timer clock. -/
  clock : Nat := 0
  source : TokenSource := .scripted
  script : List ScriptedReply := []
  /-- How often a token was asked for. -/
  calls : Nat := 0
  /-- Releases that nobody has used yet. -/
  permits : Nat := 0
  /-- Tasks that wait for a release, oldest first. -/
  holders : List Nat := []
  connections : List ConnectionState := []
  subscriptions : Subscriptions Subscriber := {}
  deliveries : List Delivery := []
  /-- `AUTH` commands: endpoint, username and token. -/
  auths : List (String × String × String) := []
  /-- Failed attempts for which a delay was asked. -/
  backoffs : List (Nat × IdentityError) := []
  engines : List EngineState := []
  tasks : List Task := []
  /-- Who can go on, in order. -/
  queue : List Turn := []
  /-- Who waits for the timer, in the order in which they began to. -/
  sleepers : List Turn := []
  /-- Endpoints that can go on, and the workers that they give their replies to: all of them
  belong to the turn of the worker. -/
  urgent : List Nat := []
  nextTask : Nat := 0

namespace World

/-! ## Parts of the world -/

def engine? (w : World) (i : Nat) : Option EngineState := w.engines[i]?

def modifyEngine (w : World) (i : Nat) (f : EngineState → EngineState) : World :=
  { w with engines := w.engines.modify i f }

def connection? (w : World) (c : Connection) : Option ConnectionState :=
  w.connections.find? fun s => s.connection.serial == c.serial

def modifyConnection (w : World) (c : Connection) (f : ConnectionState → ConnectionState) :
    World :=
  { w with connections := w.connections.map fun s =>
      if s.connection.serial = c.serial then f s else s }

/-- The live connection of this name. -/
def named? (w : World) (name : String) : Option ConnectionState :=
  w.connections.find? fun s => s.alive && s.name == name

def isAlive (w : World) (c : Connection) : Bool :=
  match w.connection? c with
  | some s => s.alive
  | none => false

def task? (w : World) (id : Nat) : Option Task := w.tasks.find? fun t => t.id == id

def stateOf? (w : World) (id : Nat) : Option TaskState := (w.task? id).map Task.state

def roleOf? (w : World) (id : Nat) : Option Role := (w.task? id).map Task.role

def setState (w : World) (id : Nat) (s : TaskState) : World :=
  { w with tasks := w.tasks.map fun t => if t.id = id then { t with state := s } else t }

def removeTask (w : World) (id : Nat) : World :=
  { w with
    tasks := w.tasks.filter fun t => t.id != id
    queue := w.queue.filter (· ≠ .task id)
    sleepers := w.sleepers.filter (· ≠ .task id)
    urgent := w.urgent.filter (· != id)
    holders := w.holders.filter (· != id) }

/-- Lets somebody take a turn after all who can go on already. -/
def enqueue (w : World) (t : Turn) : World := { w with queue := w.queue ++ [t] }

/-- Has somebody wait for the timer, behind all who do already. -/
def lieDown (w : World) (t : Turn) : World :=
  { w with sleepers := w.sleepers.filter (· ≠ t) ++ [t] }

/-- Lets a task go on. -/
def wake (w : World) (id : Nat) (p : Program Output) : World :=
  { w.setState id (.ready p) with holders := w.holders.filter (· != id) }.enqueue (.task id)

/-- Starts a task. One that the application waits for is not queued: the application runs it
in its own turn. -/
def spawn (w : World) (engine : Nat) (role : Role) (p : Program Output) : World :=
  let id := w.nextTask
  let w := { w with nextTask := id + 1, tasks := w.tasks ++ [⟨id, engine, role, .ready p⟩] }
  if role = .foreground then w else w.enqueue (.task id)

/-! ## The timer clock -/

/-- The current tick: whole milliseconds, rounded down. -/
def tick (w : World) : Nat := w.clock / 1000000

/-- The first tick at or after a time of the timer clock. -/
def tickAt (time : Nat) : Nat := (time + 999999) / 1000000

/-- The longest time that the timer takes, in seconds; longer ones stand for thirty years. -/
def longestWait : Nat := 9223372036000000000

/-- The time on the timer clock after a delay. -/
def timeAfter (w : World) (d : Duration) : Nat :=
  if d.seconds < longestWait then w.clock + d.nanos
  else w.clock + 86400 * 365 * 30 * nanosPerSecond

/-- The tick that ends a delay. -/
def tickAfter (w : World) (d : Duration) : Nat := tickAt (w.timeAfter d)

/-! ## Tokens and subscribers -/

/-- Takes a scripted reply as far as it goes for a task. -/
def progress (w : World) (task : Nat) : ScriptedReply → World × (TokenReply ⊕ ReplyStage)
  | .issue secret expiresOn => (w, .inl (.issued ⟨secret, expiresOn⟩))
  | .fail e => (w, .inl (.failed e))
  | .panic message => (w, .inl (.panicked (.text message)))
  | .hang => (w, .inr .hanging)
  | .delay d next =>
    let tick := w.tickAfter d
    if tick ≤ w.tick then w.progress task next else (w, .inr (.delayed tick next))
  | .hold next =>
    if 0 < w.permits then { w with permits := w.permits - 1 }.progress task next
    else ({ w with holders := w.holders ++ [task] }, .inr (.held next))

/-- Asks the identity service for a task. -/
def askToken (w : World) (task : Nat) : World × (TokenReply ⊕ ReplyStage) :=
  let w := { w with calls := w.calls + 1 }
  match w.source with
  | .service reply =>
    match reply w.wall with
    | .ok t => (w, .inl (.issued t))
    | .error e => (w, .inl (.failed e))
  | .scripted =>
    match w.script with
    | [] => (w, .inl (.failed (.credential "script exhausted")))
    | r :: rest => { w with script := rest }.progress task r

/-- Has the subscribers that are called for an event note it. -/
def deliver (w : World) (e : Event) : World :=
  let noted := (w.subscriptions.dispatch e).called.map fun s =>
    (⟨s.label, if s.keepsEvent then some e else none⟩ : Delivery)
  { w with deliveries := w.deliveries ++ noted }

/-! ## Connections -/

/-- The answer of a connection that is asked for its servers. -/
def listed (s : ConnectionState) : Except Panic (Except ReauthenticationError (List Endpoint)) :=
  match s.mode with
  | .listed =>
    .ok (.ok (s.servers.zipIdx.map fun r => ⟨s.connection, r.2, r.1.address⟩))
  | .disposed => .ok (.error .disposed)
  | .unavailable reason => .ok (.error (.serversUnavailable s.connection.client reason))
  | .panics => .error (.text "servers panicked")

def modifyServer (w : World) (e : Endpoint) (f : ServerState → ServerState) : World :=
  w.modifyConnection e.connection fun s => { s with servers := s.servers.modify e.index f }

def server? (w : World) (e : Endpoint) : Option ServerState :=
  (w.connection? e.connection).bind fun s => s.servers[e.index]?

/-- Notes an `AUTH` command and answers it. -/
def auth (w : World) (e : Endpoint) (username secret : String) :
    World × Except Panic AuthReply :=
  let name := match w.connection? e.connection with
    | some s => s.name
    | none => ""
  let w := { w with auths := w.auths ++ [(name ++ "/" ++ toString e.index, username, secret)] }
  match (w.server? e).map (·.answers) with
  | some (a :: rest) => (w.modifyServer e fun s => { s with answers := rest }, a.reply e.address)
  | _ => (w, .ok (.ok ()))

end World
end TokenKeeper.Simulation
