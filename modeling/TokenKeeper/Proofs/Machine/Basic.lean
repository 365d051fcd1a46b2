import TokenKeeper.Engine.Call
import TokenKeeper.Proofs.Program.Reaches

/-!
# Tasks side by side

A machine is one engine with all its tasks: the calls that have begun, the workers and the checks
that they started, and the shared state. A step is one exchange of one task, the beginning of
another call, or the loss of a connection. Any task may take the next step, and every answer from
outside may be any answer at any time, so a run is an arbitrary interleaving.

The endpoints of a pending `together` are served by members, which are small tasks inside the
task that waits for them. Tasks and members carry the evidence that their exchanges lead from the
start of their program to what is left of it, so there is no machine in which a task is somewhere
that its program cannot get to.
-/

namespace TokenKeeper

/-- What a task is for: a call, or the work on one connection for the pass of another task. -/
inductive Duty
  | call (c : Call)
  | worker (pass : Nat) (job : ConnectionJob)
  deriving DecidableEq

namespace Duty

def program (e : Engine) : Duty → Program Output
  | call c => c.program e
  | worker _ job => job.program

end Duty

/-- The endpoints that a program is waiting for. -/
def Program.jobs {α : Type} : Program α → List EndpointJob
  | ask (.together jobs) _ => jobs
  | _ => []

/-- The result of a program that has ended. -/
def Program.ended? {α : Type} : Program α → Option (Except Panic α)
  | pure a => some (.ok a)
  | panic p => some (.error p)
  | ask _ _ => none

/-- A task that serves one endpoint. -/
structure Member (e : Engine) where
  job : EndpointJob
  past : List Exchange
  rest : Program AuthReply
  sound : (Engine.serveEndpoint job e.policy.immediateRetries).Reaches past rest

/-- A task with what it has asked and been told, and with the members that it waits for. -/
structure Thread (e : Engine) where
  duty : Duty
  past : List Exchange
  rest : Program Output
  members : List (Member e)
  sound : (duty.program e).Reaches past rest
  joint : members.map (·.job) = rest.jobs

variable {e : Engine}

namespace Member

def start (job : EndpointJob) : Member e :=
  ⟨job, [], Engine.serveEndpoint job e.policy.immediateRetries, .refl _⟩

/-- A member after an answer. -/
def tell (m : Member e) {q : Request} {resume : q.Answer → Program AuthReply}
    (asks : m.rest = .ask q resume) (a : q.Answer) : Member e where
  job := m.job
  past := m.past ++ [⟨q, a⟩]
  rest := resume a
  sound := (asks ▸ m.sound).snoc a

end Member

namespace Thread

/-- The members for the endpoints that a program is waiting for. -/
def crew {α : Type} (p : Program α) : List (Member e) := p.jobs.map Member.start

theorem map_crew {α : Type} (p : Program α) :
    (crew p : List (Member e)).map (·.job) = p.jobs := by
  rw [crew, List.map_map]
  exact List.map_id _

def start (duty : Duty) : Thread e :=
  ⟨duty, [], duty.program e, crew (duty.program e), .refl _, map_crew _⟩

/-- A task after an answer. -/
def tell (t : Thread e) {q : Request} {resume : q.Answer → Program Output}
    (asks : t.rest = .ask q resume) (a : q.Answer) : Thread e where
  duty := t.duty
  past := t.past ++ [⟨q, a⟩]
  rest := resume a
  members := crew (resume a)
  sound := (asks ▸ t.sound).snoc a
  joint := map_crew _

/-- A task after an answer to one of its members. -/
def tellMember (t : Thread e) {j : Nat} {m : Member e} (here : t.members[j]? = some m)
    {q : Request} {resume : q.Answer → Program AuthReply} (asks : m.rest = .ask q resume)
    (a : q.Answer) : Thread e where
  duty := t.duty
  past := t.past
  rest := t.rest
  members := t.members.set j (m.tell asks a)
  sound := t.sound
  joint := by
    have same : (t.members.map (·.job))[j]? = some m.job := by rw [List.getElem?_map, here]; rfl
    obtain ⟨inside, job⟩ := List.getElem?_eq_some_iff.mp same
    rw [List.map_set, ← t.joint]
    change (t.members.map (·.job)).set j m.job = t.members.map (·.job)
    rw [← job, List.set_getElem_self]

end Thread

/-- One engine with its tasks, and which connections are alive. -/
structure Machine (e : Engine) where
  shared : Shared := {}
  threads : List (Thread e) := []
  alive : Connection → Bool := fun _ => true

/-- The answer to a `together`: all replies in order, or the panic of a member. -/
def Settled (members : List (Member e)) : Except Panic (List AuthReply) → Prop
  | .ok replies => members.map (·.rest) = replies.map .pure
  | .error p => ∃ m ∈ members, m.rest = .panic p

/-- The result of a worker. -/
def Thread.outcome? (t : Thread e) : Option (Except Panic ConnectionOutcome) :=
  match t.rest with
  | .pure (.outcome o) => some (.ok o)
  | .panic p => some (.error p)
  | _ => none

/-- The task that a request starts. -/
def Request.started (thread : Nat) : Request → List Duty
  | .spawnWorker job => [.worker thread job]
  | .spawnCheck => [.call .check]
  | _ => []

namespace Machine

/-- Whether a request can be answered this way. What neither the shared state nor the tasks
decide can be answered in any way. -/
def Permits (m : Machine e) (members : List (Member e)) : (q : Request) → q.Answer → Prop
  | .spawnWorker _, w => w = ⟨m.threads.length⟩
  | .joinWorker w, r => ∃ t, m.threads[w.number]? = some t ∧ t.outcome? = some r
  | .together _, r => Settled members r
  | .backoff attempt error, r => r = e.policy.backoff attempt error
  | .lockHeartbeat, _ => m.shared.heartbeatLocked = false
  | q, a => ∀ b, m.shared.answer? m.alive q = some b → a = b

/-- The machine after an answer to one of its tasks. -/
def tell (m : Machine e) (i : Nat) (t : Thread e) (q : Request) : Machine e where
  shared := m.shared.after m.alive q
  threads := m.threads.set i t ++ (q.started i).map Thread.start
  alive := m.alive

end Machine

/-- One exchange of a task or of one of its members, with what came before it. -/
structure Deed where
  thread : Nat
  duty : Duty
  member : Option (Nat × EndpointJob)
  past : List Exchange
  exchange : Exchange
  deriving DecidableEq

/-- What happens in a step. -/
inductive Label
  | began (c : Call)
  | did (d : Deed)
  | dropped (c : Connection)
  deriving DecidableEq

/-- One step of a machine. -/
inductive Step : Machine e → Label → Machine e → Prop
  | begin (m : Machine e) (c : Call) :
      Step m (.began c) { m with threads := m.threads ++ [.start (.call c)] }
  | tell {m : Machine e} {i : Nat} {t : Thread e} {q : Request}
      {resume : q.Answer → Program Output} {a : q.Answer} (here : m.threads[i]? = some t)
      (asks : t.rest = .ask q resume) (permits : m.Permits t.members q a) :
      Step m (.did ⟨i, t.duty, none, t.past, ⟨q, a⟩⟩) (m.tell i (t.tell asks a) q)
  | tellMember {m : Machine e} {i j : Nat} {t : Thread e} {mem : Member e} {q : Request}
      {resume : q.Answer → Program AuthReply} {a : q.Answer} (here : m.threads[i]? = some t)
      (inside : t.members[j]? = some mem) (asks : mem.rest = .ask q resume)
      (permits : m.Permits [] q a) :
      Step m (.did ⟨i, t.duty, some (j, mem.job), mem.past, ⟨q, a⟩⟩)
        (m.tell i (t.tellMember inside asks a) q)
  | drop (m : Machine e) (c : Connection) :
      Step m (.dropped c) { m with alive := fun d => if d = c then false else m.alive d }

/-- A run, with what happened in it. -/
inductive Run : Machine e → List Label → Machine e → Prop
  | refl (m : Machine e) : Run m [] m
  | snoc {m m' m'' : Machine e} {trace : List Label} {l : Label} :
      Run m trace m' → Step m' l m'' → Run m (trace ++ [l]) m''

end TokenKeeper
