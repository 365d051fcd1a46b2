import TokenKeeper.Simulation.World

/-!
# Tasks

A task runs until its program ends or asks for something that takes time. Requests that the
world can answer at once are answered in place; for the others the task is put aside together
with what it waits for.
-/

namespace TokenKeeper.Simulation.World

/-- The answer of the state that the tasks of an engine share, and the world after it. -/
def consult (w : World) (engine : Nat) (q : Request) : Option (World × q.Answer) := do
  let e ← w.engine? engine
  let answer ← e.answer? w.isAlive q
  return (w.modifyEngine engine fun e => { e with toShared := e.after w.isAlive q }, answer)

/-- The answer to a request that needs no waiting, and the world after it. -/
def perform (w : World) (task engine : Nat) : (q : Request) → Option (World × q.Answer)
  | .now => some (w, w.wall)
  | .sleep d => if w.tickAfter d ≤ w.tick then some (w, ()) else none
  | .getToken limit =>
    match w.askToken task with
    | (w', .inl reply) => some (w', reply)
    | (w', .inr _) =>
      if w.tickAfter limit ≤ w.tick then
        some ({ w' with holders := w'.holders.filter (· != task) }, .late)
      else none
  | .backoff attempt error =>
    let w := { w with backoffs := w.backoffs ++ [(attempt, error)] }
    match w.engine? engine with
    | some e => some (w, e.engine.policy.backoff attempt error)
    | none => some (w, .ok .zero)
  | .notify e => if (w.subscriptions.dispatch e).isDone then some (w, ()) else none
  | .endpoints c =>
    let w := w.modifyConnection c fun s => { s with lookups := s.lookups + 1 }
    match w.connection? c with
    | some s => some (w, listed s)
    | none => some (w, .ok (.ok []))
  | .isConnected e =>
    match w.server? e with
    | some s => some (w, .ok s.connected)
    | none => some (w, .ok false)
  | .auth e username secret => some (w.auth e username secret)
  | .unlockHeartbeat =>
    -- The oldest task that waits for the lock has it next.
    let next := w.tasks.findSome? fun t =>
      match t.state with
      | .waiting (.heartbeatLock resume) => if t.engine = engine then some (t.id, resume) else none
      | _ => none
    match next with
    | some (id, resume) => some (w.wake id resume, ())
    | none => w.consult engine .unlockHeartbeat
  | .startHeartbeat =>
    (w.consult engine .startHeartbeat).map fun r => (r.1.enqueue (.heartbeat engine), r.2)
  | .spawnCheck =>
    match w.engine? engine with
    | some e =>
      some (w.spawn engine .check (Call.check.program e.engine), ())
    | none => some (w, ())
  | .spawnWorker job =>
    let id := w.nextTask
    some (w.spawn engine .worker job.program, ⟨id⟩)
  | .joinWorker id =>
    match w.stateOf? id.number with
    | some (.finished r) =>
      let outcome := match r with
        | .ok (.outcome o) => .ok o
        | .ok _ => .ok .failed
        | .error p => .error p
      some (w.removeTask id.number, outcome)
    | _ => none
  | .together [] => some (w, .ok [])
  | .together (_ :: _) => none
  | q => w.consult engine q

/-- Puts a task aside until a tick of the timer, or before it if more can happen. -/
def putToSleep (w : World) (task : Nat) (wait : Wait) : World :=
  (w.setState task (.waiting wait)).lieDown (.task task)

/-- Puts a task aside whose request takes time. -/
def block (w : World) (task engine : Nat) :
    (q : Request) → (q.Answer → Program Output) → World
  | .sleep d, resume => w.putToSleep task (.timer (w.tickAfter d) (resume ()))
  | .getToken limit, resume =>
    match w.askToken task with
    | (w', .inl reply) => w'.wake task (resume reply)
    | (w', .inr stage) => w'.putToSleep task (.token (w.tickAfter limit) stage resume)
  | .notify e, resume => (w.deliver e).wake task (resume ())
  | .lockHeartbeat, resume => w.setState task (.waiting (.heartbeatLock (resume ())))
  | .joinWorker id, resume => w.setState task (.waiting (.worker id resume))
  | .together jobs, resume =>
    let retries := match w.engine? engine with
      | some e => e.engine.policy.immediateRetries
      | none => 0
    let first := w.nextTask
    let ids := List.range' first jobs.length
    let members := jobs.zip ids |>.map fun r =>
      (⟨r.2, engine, .member task,
        .ready ((Engine.serveEndpoint r.1 retries).bind fun a => .pure (.reply a))⟩ : Task)
    let w := w.setState task (.waiting (.members (ids.map fun id => (id, none)) resume))
    { w with
      nextTask := first + jobs.length
      tasks := w.tasks ++ members
      urgent := ids ++ w.urgent }
  | _, _ => w

/-- Hands a reply of an endpoint to the worker that waits for it. A panic ends the other
endpoints as well. -/
def memberEnded (w : World) (id parent : Nat) (r : Except Panic Output) : World :=
  let w := w.removeTask id
  match w.stateOf? parent with
  | some (.waiting (.members replies resume)) =>
    match r with
    | .error p =>
      let w := replies.foldl (fun w m => w.removeTask m.1) w
      { w.setState parent (.ready (resume (.error p))) with urgent := parent :: w.urgent }
    | .ok o =>
      let reply : AuthReply := match o with
        | .reply a => a
        | _ => .ok ()
      let replies := replies.map fun m => if m.1 = id then (id, some reply) else m
      match replies.mapM (·.2) with
      | some all =>
        { w.setState parent (.ready (resume (.ok all))) with urgent := parent :: w.urgent }
      | none => w.setState parent (.waiting (.members replies resume))
  | _ => w

/-- Hands the outcome of a worker to the task that waits for it; else it is kept. -/
def workerEnded (w : World) (id : Nat) (r : Except Panic Output) : World :=
  let waiter := w.tasks.findSome? fun t =>
    match t.state with
    | .waiting (.worker worker resume) => if worker.number = id then some (t.id, resume) else none
    | _ => none
  match waiter with
  | some (t, resume) =>
    let outcome := match r with
      | .ok (.outcome o) => .ok o
      | .ok _ => .ok .failed
      | .error p => .error p
    (w.removeTask id).wake t (resume outcome)
  | none => w.setState id (.finished r)

/-- Keeps the result of a check for the application, which goes on if it waits for it. -/
def checkEnded (w : World) (id : Nat) (r : Except Panic Output) : World :=
  let waiter := w.tasks.findSome? fun t =>
    match t.state with
    | .waiting (.ended check) => if check = id then some t.id else none
    | _ => none
  let w := w.setState id (.finished r)
  match waiter with
  | some t => w.wake t (.pure .done)
  | none => w

/-- Ends a task. -/
def ended (w : World) (id : Nat) (r : Except Panic Output) : World :=
  match w.roleOf? id with
  | some .check => w.removeTask id
  | some .ensure => w.checkEnded id r
  | some .worker => w.workerEnded id r
  | some (.member parent) => w.memberEnded id parent r
  | _ => w.setState id (.finished r)

/-- Runs a task until it ends or has to wait. -/
def advance (w : World) (task engine : Nat) : Program Output → World
  | .pure r => w.ended task (.ok r)
  | .panic p => w.ended task (.error p)
  | .ask q resume =>
    match w.perform task engine q with
    | some (w, answer) => w.advance task engine (resume answer)
    | none => w.block task engine q resume

/-- Takes a reply on that a task waits for, if it can go on. -/
def followUp (w : World) (task : Nat) : ReplyStage → World × (TokenReply ⊕ ReplyStage)
  | .delayed tick next =>
    if tick ≤ w.tick then w.progress task next else (w, .inr (.delayed tick next))
  | stage => (w, .inr stage)

/-- The turn of a task: it runs until it ends or has to wait. What it waited for counts even if
the deadline has come, too. -/
def runTask (w : World) (id : Nat) : World :=
  match w.task? id with
  | some ⟨_, engine, _, .ready p⟩ => w.advance id engine p
  | some ⟨_, engine, _, .waiting (.timer tick resume)⟩ =>
    if tick ≤ w.tick then w.advance id engine resume else w
  | some ⟨_, engine, _, .waiting (.token deadline stage resume)⟩ =>
    match w.followUp id stage with
    | (w, .inl reply) => w.advance id engine (resume reply)
    | (w, .inr stage) =>
      if deadline ≤ w.tick then
        { w with holders := w.holders.filter (· != id) }.advance id engine (resume .late)
      else w.putToSleep id (.token deadline stage resume)
  | _ => w

end TokenKeeper.Simulation.World
