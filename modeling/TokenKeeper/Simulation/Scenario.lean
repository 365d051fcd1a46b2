import TokenKeeper.Simulation.Clock

/-!
# Scenarios

A scenario is a list of operations on a simulated world, with a report after each: its result,
what subscribers noted, which `AUTH` commands were sent, how far the timer clock moved, and what
the store, the registry and the heartbeat look like. The operations of the first kind work on
the parts of an engine directly, those of the second on a whole engine, which has to be built
first.
-/

namespace TokenKeeper.Simulation

/-- One operation. -/
inductive Operation
  | setWall (t : Instant)
  | sleep (d : Duration)
  | jump (d : Duration)
  /-- Makes a connection; one of the same name is dropped. -/
  | define (name client : String) (servers : List String)
  | drop (name : String)
  | setServers (name : String) (mode : ServersMode)
  | setConnected (name : String) (index : Nat) (connected : Bool)
  | answer (name : String) (index : Nat) (answers : List AuthAnswer)
  /-- Adds to the end of the script. -/
  | push (r : ScriptedReply)
  | release
  | subscribe (kind : EventKind) (panics : Bool) (label : String)
  | unsubscribe (label : String)
  | acquire (reportFailure : Bool)
  | reauthenticate
  -- Operations on the parts.
  | replace (t : Token)
  | snapshot
  | expiredAt (t : Instant)
  | setUsername (name : String)
  | maxAttempts
  | track (name : String) (tag : Instant)
  | stale (expiry : Instant)
  | mark (name : String) (expiry : Instant)
  | untrack (name : String)
  | isEmpty
  -- Operations on an engine.
  | start
  | build
  | ensure
  | spawnEnsure
  | join
  | credential
  | connect (name : String)
  | afterConnect (name : String)
  | stop (name : String)
  | shutDown
  | dropEngine
  | subscribeLate

/-- What an operation needs and does not find. -/
inductive Missing
  | id
  | connection
  | engine
  | task
  deriving DecidableEq, Repr

/-- The result of an operation. -/
inductive Result
  | nothing
  | boolean (b : Bool)
  | number (n : Nat)
  | text (s : String)
  | token (t : Token)
  | stale (found : List Tracked)
  | acquisition (a : Acquisition)
  | pass (p : Pass)
  | credential (c : Credential)
  | error (e : AuthError)
  | panic (p : Panic)
  | missing (m : Missing)

/-- What can be seen of an engine. -/
structure EngineView where
  expiry : Instant
  username : Option String
  tracked : Nat
  /-- The tags of all connections that were given a number. -/
  tags : List (String × Option Instant)
  heartbeat : Bool

/-- The report on one operation. -/
structure Report where
  result : Result
  deliveries : List Delivery
  auths : List (String × String × String)
  elapsedSeconds : Nat
  calls : Nat
  lookups : List (String × Nat)
  engine : Option EngineView

/-- A scenario on its way. -/
structure Scenario where
  world : World
  policy : RefreshPolicy
  principal : Option String
  /-- The engine in use. -/
  engine : Option Nat := none
  /-- The check that the application may wait for. -/
  background : Option Nat := none
  ids : List (String × ConnectionId) := []
  labels : List (String × SubscriptionId) := []
  nextSerial : Nat := 1

namespace Scenario

/-- The value last set under a name. -/
def lookup {α : Type} (name : String) (entries : List (String × α)) : Option α :=
  (entries.find? fun e => e.1 == name).map (·.2)

/-- Sets the value under a name. -/
def assign {α : Type} (name : String) (a : α) (entries : List (String × α)) :
    List (String × α) :=
  (name, a) :: entries.filter fun e => e.1 != name

/-- Adds an engine to the world. -/
def addEngine (s : Scenario) (engine : Engine) : Scenario × Nat :=
  let i := s.world.engines.length
  ({ s with world := { s.world with engines := s.world.engines ++ [{ engine }] } }, i)

/-- The application lets go of an engine. -/
def letGo (s : Scenario) (engine : Option Nat) : Scenario :=
  match engine with
  | some i => { s with world := s.world.modifyEngine i fun e => { e with held := false } }
  | none => s

/-- Uses another engine from now on. -/
def use (s : Scenario) (engine : Option Nat) : Scenario :=
  { s.letGo s.engine with engine }

/-- The result that a finished program stands for. -/
def resultOf : Except Panic Output → Result
  | .error p => .panic p
  | .ok .done => .nothing
  | .ok (.flag b) => .boolean b
  | .ok (.acquisition (.ok a)) => .acquisition a
  | .ok (.acquisition (.error e)) => .error e
  | .ok (.pass p) => .pass p
  | .ok (.credential (some c)) => .credential c
  | .ok (.credential none) => .nothing
  | .ok (.connection id) => .text id.text
  | .ok _ => .nothing

/-- The engine that the scenario is about. -/
def subject (s : Scenario) : Engine := ⟨s.policy, s.principal⟩

/-- Has an engine carry out a call. -/
def complete (s : Scenario) (engine : Nat) (c : Call) : Scenario × Except Panic Output :=
  let (world, r) := s.world.complete engine (c.program s.subject)
  ({ s with world }, r)

/-- Has the engine in use carry out a call. -/
def onEngine (s : Scenario) (c : Call) : Scenario × Result :=
  match s.engine with
  | none => (s, .missing .engine)
  | some i =>
    let (s, r) := s.complete i c
    (s, resultOf r)

/-- Changes the state of the engine in use. -/
def modify (s : Scenario) (f : EngineState → EngineState) : Scenario :=
  match s.engine with
  | some i => { s with world := s.world.modifyEngine i f }
  | none => s

def state? (s : Scenario) : Option EngineState := s.engine.bind s.world.engine?

/-- Works on the engine in use. -/
def withState (s : Scenario) (f : EngineState → Scenario × Result) : Scenario × Result :=
  match s.state? with
  | some e => f e
  | none => (s, .missing .engine)

/-- Works on a live connection. -/
def withConnection (s : Scenario) (name : String)
    (f : ConnectionState → Scenario × Result) : Scenario × Result :=
  match s.world.named? name with
  | some c => f c
  | none => (s, .missing .connection)

/-- Works on the number that a name was tracked under. -/
def withId (s : Scenario) (name : String) (f : ConnectionId → Scenario × Result) :
    Scenario × Result :=
  match lookup name s.ids with
  | some id => f id
  | none => (s, .missing .id)

def subscribe (s : Scenario) (kind : EventKind) (h : Subscriber) : Scenario × Result :=
  let (subscriptions, id) := s.world.subscriptions.subscribe kind h
  ({ s with
      world := { s.world with subscriptions }
      labels := assign h.label id s.labels }, .text id.text)

/-- Drops the connections of a name. -/
def drop (s : Scenario) (name : String) : Scenario :=
  { s with world := { s.world with connections := s.world.connections.map fun c =>
      if c.name = name then { c with alive := false } else c } }

def updateConnection (s : Scenario) (name : String) (f : ConnectionState → ConnectionState) :
    Scenario × Result :=
  s.withConnection name fun c =>
    ({ s with world := s.world.modifyConnection c.connection f }, .nothing)

/-- Carries out one operation. -/
def perform (s : Scenario) : Operation → Scenario × Result
  | .setWall t => ({ s with world := { s.world with wall := t } }, .nothing)
  | .sleep d => ({ s with world := (s.world.sleep d).settle }, .nothing)
  | .jump d => ({ s with world := s.world.jump d }, .nothing)
  | .define name client servers =>
    let s := s.drop name
    let c : ConnectionState :=
      { name, connection := ⟨s.nextSerial, client⟩
        servers := servers.map fun a => { address := a } }
    ({ s with
        world := { s.world with connections := s.world.connections ++ [c] }
        nextSerial := s.nextSerial + 1 }, .nothing)
  | .drop name => (s.drop name, .nothing)
  | .setServers name mode => s.updateConnection name fun c => { c with mode }
  | .setConnected name index connected =>
    s.updateConnection name fun c =>
      { c with servers := c.servers.modify index fun e => { e with connected } }
  | .answer name index answers =>
    s.updateConnection name fun c =>
      { c with servers := c.servers.modify index fun e =>
          { e with answers := e.answers ++ answers } }
  | .push r => ({ s with world := { s.world with script := s.world.script ++ [r] } }, .nothing)
  | .release => ({ s with world := s.world.release.settle }, .nothing)
  | .subscribe kind panics label => s.subscribe kind ⟨label, true, panics⟩
  | .unsubscribe label =>
    match lookup label s.labels with
    | some id =>
      let (subscriptions, removed) := s.world.subscriptions.unsubscribe id
      ({ s with world := { s.world with subscriptions } }, .boolean removed)
    | none => (s, .missing .id)
  | .acquire reportFailure =>
    s.onEngine (.acquire reportFailure)
  | .reauthenticate => s.onEngine .reauthenticate
  | .replace t =>
    s.withState fun e =>
      (s.modify fun e => { e with store := e.store.offer t }, .boolean (e.store.accepts t))
  | .snapshot =>
    s.withState fun e =>
      match e.store.current with
      | some t => (s, .token t)
      | none => (s, .nothing)
  | .expiredAt now =>
    s.withState fun e =>
      match e.store.current with
      | some t => (s, .boolean (t.isExpiredAt now))
      | none => (s, .nothing)
  | .setUsername name =>
    (s.modify fun e => { e with store := e.store.setUsernameIfAbsent name }, .nothing)
  | .maxAttempts => (s, .number s.policy.maxAttempts)
  | .track name tag =>
    s.withConnection name fun c => s.withState fun e =>
      let (registry, id) := e.registry.track c.connection tag
      ({ s.modify fun e => { e with registry } with ids := assign name id s.ids }, .text id.text)
  | .stale expiry =>
    s.withState fun e =>
      let (registry, found) := e.registry.stale s.world.isAlive expiry
      (s.modify fun e => { e with registry }, .stale found)
  | .mark name expiry =>
    s.withId name fun id =>
      (s.modify fun e => { e with registry := e.registry.mark id expiry }, .nothing)
  | .untrack name =>
    s.withId name fun id => s.withState fun e =>
      let (registry, removed) := e.registry.untrack id
      (s.modify fun e => { e with registry }, .boolean removed)
  | .isEmpty => s.withState fun e => (s, .boolean e.registry.isEmpty)
  | .build =>
    match Engine.build s.policy s.principal true with
    | .error e => (s, .error e)
    | .ok e =>
      let (s, i) := s.addEngine e
      (s.use (some i), .nothing)
  | .start =>
    match Engine.build s.policy s.principal true with
    | .error e => (s, .error e)
    | .ok e =>
      let (s, i) := s.addEngine e
      let (s, r) := s.complete i (.acquire true)
      match r with
      | .ok (.acquisition (.ok _)) => (s.use (some i), .nothing)
      | r => (s.letGo (some i), resultOf r)
  | .ensure => s.onEngine .ensure
  | .spawnEnsure =>
    match s.engine with
    | none => (s, .missing .engine)
    | some i =>
      let check := s.world.spawn i .ensure (Call.ensure.program s.subject)
      ({ s with world := check.settle, background := some s.world.nextTask }, .nothing)
  | .join =>
    match s.background with
    | none => (s, .missing .task)
    | some id =>
      let (world, r) := s.world.join id
      ({ s with world, background := none }, resultOf r)
  | .credential =>
    let (s, r) := s.onEngine .credential
    ({ s with world := s.world.settle }, r)
  | .connect name =>
    s.withState fun _ => s.withConnection name fun c =>
      let (s, r) := s.onEngine (.established c.connection)
      let last := (s.state?.bind fun e => e.registry.entryOf? c.connection).map Tracked.id
      match last with
      | some id => ({ s with ids := assign name id s.ids }, r)
      | none => (s, r)
  | .afterConnect name =>
    s.withState fun _ => s.withConnection name fun c =>
      let (s, _) := s.onEngine (.established c.connection)
      (s, .nothing)
  | .stop name =>
    s.withState fun _ => s.withId name fun id => s.onEngine (.stop id)
  | .shutDown => s.onEngine .shutDown
  | .dropEngine => (s.use none, .nothing)
  | .subscribeLate => s.withState fun _ => s.subscribe .refreshed ⟨"late", false, false⟩

/-- What can be seen of the engine in use. -/
def view (s : Scenario) : Option EngineView :=
  s.state?.map fun e =>
    { expiry := e.store.expiry
      username := e.store.username
      tracked := e.registry.size
      tags := s.ids.map fun r => (r.1, e.registry.tag? r.2)
      heartbeat := e.heartbeat.isSome }

/-- Carries out one operation and reports on it. -/
def step (s : Scenario) (o : Operation) : Scenario × Report :=
  let before := s.world.clock
  let (s, result) := s.perform o
  let report : Report :=
    { result
      deliveries := s.world.deliveries
      auths := s.world.auths
      elapsedSeconds := (s.world.clock - before) / nanosPerSecond
      calls := s.world.calls
      lookups := (s.world.connections.filter (·.alive)).map fun c => (c.name, c.lookups)
      engine := s.view }
  ({ s with world := { s.world with deliveries := [], auths := [] } }, report)

/-- Carries out all operations. -/
def run (s : Scenario) : List Operation → List Report
  | [] => []
  | o :: rest =>
    let (s, report) := s.step o
    report :: s.run rest

/-- The labels under which a scenario notes all events. -/
def recorders : List (EventKind × String) :=
  [(.refreshed, "refreshed"), (.refreshFailed, "refresh_failed"),
   (.reauthenticated, "reauthenticated"), (.reauthenticationFailed, "reauth_failed")]

/-- A scenario at its beginning. -/
def initial (wall : Instant) (policy : RefreshPolicy) (principal : Option String)
    (script : List ScriptedReply) (record : Bool) : Scenario :=
  let s : Scenario := { world := { wall, script }, policy, principal }
  if record then recorders.foldl (fun s r => (s.subscribe r.1 ⟨r.2, true, false⟩).1) s else s

/-- A scenario on the parts of an engine, which are there from the beginning. -/
def withParts (s : Scenario) : Scenario :=
  let (s, i) := s.addEngine ⟨s.policy, s.principal⟩
  { s with engine := some i }

end Scenario
end TokenKeeper.Simulation
