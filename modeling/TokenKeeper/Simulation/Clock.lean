import TokenKeeper.Simulation.Task

/-!
# Running the simulated world

Tasks take turns in the order in which they can go on, and so does the application itself: it
waits for a task of its own, which is queued like all others. When nobody can go on the timer
clock jumps to the next tick that somebody waits for; those whose tick has come go on in the
order in which they began to wait. The heartbeat of an engine ticks with a fixed alignment:
ticks that were missed are left out.
-/

namespace TokenKeeper.Simulation.World

/-- The ticks at which somebody who waits for the timer may go on. -/
def ticksOf (w : World) : Turn → List Nat
  | .task id =>
    match w.stateOf? id with
    | some (.waiting (.timer tick _)) => [tick]
    | some (.waiting (.token deadline (.delayed tick _) _)) => [tick, deadline]
    | some (.waiting (.token deadline _ _)) => [deadline]
    | _ => []
  | .heartbeat engine =>
    match (w.engine? engine).bind fun e => e.heartbeat with
    | some (.ticking due) => [tickAt due]
    | _ => []

/-- All that happens at a later tick, with its tick. -/
def alarms (w : World) : List (Nat × Turn) :=
  w.sleepers.flatMap fun t => (w.ticksOf t).map fun tick => (tick, t)

/-- Lets everybody go on whose tick has come, earliest first. -/
def ringDue (w : World) : World :=
  let due := w.alarms.filter fun a => a.1 ≤ w.tick
  let turns := ((due.mergeSort fun a b => a.1 ≤ b.1).map (·.2)).eraseDups
  { w with queue := w.queue ++ turns, sleepers := w.sleepers.filter (· ∉ turns) }

/-- Whether somebody still holds an engine: the application or one of its checks. -/
def isHeld (w : World) (engine : Nat) : Bool :=
  (match w.engine? engine with
    | some e => e.held
    | none => false) ||
  w.tasks.any fun t => t.engine == engine &&
    match t.role, t.state with
    | .check, _ => true
    | .ensure, .finished _ => false
    | .ensure, _ => true
    | _, _ => false

/-- The time one period after another time. -/
def periodAfter (w : World) (time : Nat) (period : Duration) : Nat :=
  if period.seconds < longestWait then time + period.nanos else w.timeAfter period

/-- The turn of a heartbeat. The first one begins the first period, and later ones start a check
and set the next tick. A beat more than five milliseconds late keeps the alignment of the ticks
that it missed. -/
def beat (w : World) (engine : Nat) : World :=
  let await (w : World) (due : Nat) : World :=
    (w.modifyEngine engine fun e => { e with heartbeat := some (.ticking due) }).lieDown
      (.heartbeat engine)
  match w.engine? engine with
  | some ⟨⟨_, _, _, _, some .fresh, _⟩, e, _⟩ => await w (w.periodAfter w.clock e.policy.heartbeat)
  | some ⟨⟨_, _, _, _, some (.ticking due), _⟩, e, _⟩ =>
    if !w.isHeld engine then w.modifyEngine engine fun e => { e with heartbeat := none }
    else if w.tick < tickAt due then w
    else
      let period := e.policy.heartbeat
      let next :=
        if due + 5000000 < w.clock then
          w.periodAfter w.clock period - (w.clock - due) % period.nanos
        else w.periodAfter due period
      await (w.spawn engine .check (Call.check.program e)) next
  | _ => w

def takeTurn (w : World) : Turn → World
  | .task id => w.runTask id
  | .heartbeat engine => w.beat engine

/-- Moves the timer clock to the next tick that somebody waits for. -/
def moveClock? (w : World) : Option World :=
  match (w.alarms.map (·.1)).min? with
  | some next => some { w with clock := w.clock + (next - w.tick) * 1000000 }.ringDue
  | none => none

def isFinished (w : World) (id : Nat) : Bool :=
  match w.stateOf? id with
  | some (.finished _) => true
  | _ => false

/-- Runs the world until a task is finished. -/
def runUntil (goal : Nat) : (fuel : Nat) → World → World
  | 0, w => w
  | fuel + 1, w =>
    if w.isFinished goal then w
    else
      match w.urgent, w.queue with
      | id :: rest, _ => runUntil goal fuel ({ w with urgent := rest }.runTask id)
      | [], t :: rest => runUntil goal fuel ({ w with queue := rest }.takeTurn t)
      | [], [] =>
        match w.moveClock? with
        | some w => runUntil goal fuel w
        | none => w

/-- More steps than any scenario takes. -/
def plenty : Nat := 1000000000000

/-- Takes the result of a finished task. -/
def take (w : World) (id : Nat) : World × Except Panic Output :=
  match w.stateOf? id with
  | some (.finished r) => (w.removeTask id, r)
  | _ => (w.removeTask id, .error .other)

/-- Runs a program on an engine and waits for its result. -/
def complete (w : World) (engine : Nat) (p : Program Output) : World × Except Panic Output :=
  let id := w.nextTask
  (runUntil id plenty ((w.spawn engine .foreground p).runTask id)).take id

/-- Waits for a check and takes its result. The application goes on after all who could go on
when the check ended. -/
def join (w : World) (check : Nat) : World × Except Panic Output :=
  if w.isFinished check then w.take check
  else
    let id := w.nextTask
    let w := (w.spawn 0 .foreground (.pure .done)).setState id (.waiting (.ended check))
    ((runUntil id plenty w).take id).1.take check

/-- Lets everybody take a turn who can go on. -/
def yield (w : World) : World :=
  let id := w.nextTask
  ((runUntil id plenty ((w.spawn 0 .foreground (.pure .done)).enqueue (.task id))).take id).1

/-- Lets the timer clock run for a time. -/
def sleep (w : World) (d : Duration) : World :=
  (w.complete 0 (.ask (.sleep d) fun _ => .pure .done)).1

/-- Lets the background come to rest. That takes a millisecond. -/
def settle (w : World) : World := w.sleep (.clamp 1000000)

/-- Moves the timer clock at once; what is due then happens late. -/
def jump (w : World) (d : Duration) : World :=
  { w with clock := w.clock + d.nanos }.ringDue.yield.settle

/-- Lets one held answer go on, now or when one is held. -/
def release (w : World) : World :=
  match w.holders with
  | [] => { w with permits := w.permits + 1 }
  | id :: rest =>
    let w := { w with holders := rest }
    match w.stateOf? id with
    | some (.waiting (.token deadline (.held next) resume)) =>
      (w.setState id (.waiting (.token deadline (.delayed w.tick next) resume))).enqueue (.task id)
    | _ => w

end TokenKeeper.Simulation.World
