import TokenKeeper.Proofs.Pass.Alone
import TokenKeeper.Proofs.Pass.Commands

/-!
# The jobs of a pass

A pass that runs alone has a job for each connection that is behind the token, and it starts one
worker for each job. So a connection is sent what the members of its worker send, whenever the pass
runs and in whatever order its parts go on, and no other connection is sent anything.
-/

namespace TokenKeeper

variable {e : Engine} {m m₀ : Machine e} {trace : List Label} {d : Deed}
variable {outside : Answerer} {conduct : ConnectionId → Conduct} {t : Thread e}

/-- The jobs of a pass that begins in this state and runs alone. -/
def Shared.jobs (s : Shared) (alive : Connection → Bool) : List ConnectionJob :=
  match s.store.current, s.store.username with
  | some token, some username =>
    ((s.registry.prune alive).behind token.expiresAt).map (·.job token username)
  | _, _ => []

/-- The registry names no connection twice. -/
theorem Run.findsDistinct (run : Run m₀ trace m) (ordered : m₀.shared.registry.Ordered)
    (happened : .did d ∈ trace) (past : List Exchange) :
    Engine.FindsDistinct past d.exchange := by
  rintro expiry found asks
  obtain ⟨earlier, later, rfl⟩ := List.append_of_mem happened
  obtain ⟨before, after, first, step, _⟩ := run.cut
  have answered : found = (before.shared.registry.stale before.alive expiry).2 :=
    step.answer asks rfl
  rw [answered]
  refine List.Pairwise.imp (fun low same => ?_)
    ((((first.ordered ordered).increasing.filter _).filter _))
  rw [same] at low
  exact Nat.lt_irrefl _ low

namespace Lone

variable (p : Lone outside conduct .reauthenticate m₀ m trace)
include p

/-- The pass has started at most one worker for a connection. -/
theorem startsOnce (ordered : m₀.shared.registry.Ordered)
    (here : m.threads[m₀.threads.length]? = some t) {job : ConnectionJob} {w : WorkerId}
    {earlier later : List Exchange} (past : t.past = earlier ++ ⟨.spawnWorker job, w⟩ :: later) :
    Engine.StartsOnce earlier (.spawnWorker job) := by
  obtain ⟨duty, _⟩ := p.known here
  have kept := p.run.history (Nat.le_refl _) here
  obtain ⟨resume, reached⟩ := (p.run.sound (kept.own _ _ _ past)).reaches rfl
  rw [duty] at reached
  have contract : (Call.reauthenticate.program e).Meets _ _ _ [] := Call.reauthenticate_once
  refine (contract.reaches reached fun before x after cut => ?_).1
  have whole : t.past = before ++ x :: (after ++ ⟨.spawnWorker job, w⟩ :: later) := by
    rw [past, show earlier = before ++ x :: after from cut, List.append_assoc]
    rfl
  exact p.run.findsDistinct ordered (kept.own _ _ _ whole) _

/-- A connection has one worker. -/
theorem one_worker (ordered : m₀.shared.registry.Ordered)
    (here : m.threads[m₀.threads.length]? = some t) {job job' : ConnectionJob} {w w' : WorkerId}
    (spawned : (⟨.spawnWorker job, w⟩ : Exchange) ∈ t.past)
    (spawned' : (⟨.spawnWorker job', w'⟩ : Exchange) ∈ t.past) (same : job.id = job'.id) :
    w = w' := by
  obtain ⟨earlier, later, past⟩ := List.append_of_mem spawned
  rw [past] at spawned'
  rcases List.mem_append.mp spawned' with before | after
  · exact absurd same.symm (p.startsOnce ordered here past _ _ before)
  · rcases List.mem_cons.mp after with now | after
    · cases now
      rfl
    · obtain ⟨between, rest, rfl⟩ := List.append_of_mem after
      have first : (⟨.spawnWorker job, w⟩ : Exchange) ∈
          earlier ++ ⟨.spawnWorker job, w⟩ :: between := List.mem_append_right _ List.mem_cons_self
      exact absurd same (p.startsOnce ordered here (by simpa using past) _ _ first)

/-- A worker has one job. -/
theorem one_job (here : m.threads[m₀.threads.length]? = some t) {job job' : ConnectionJob}
    {w : WorkerId} (spawned : (⟨.spawnWorker job, w⟩ : Exchange) ∈ t.past)
    (spawned' : (⟨.spawnWorker job', w⟩ : Exchange) ∈ t.past) : job = job' := by
  obtain ⟨_, deed⟩ := p.run.deed_of_past (Nat.le_refl _) here spawned
  obtain ⟨_, deed'⟩ := p.run.deed_of_past (Nat.le_refl _) here spawned'
  obtain ⟨_, worker, there, duty⟩ := p.run.spawned deed rfl
  obtain ⟨_, worker', there', duty'⟩ := p.run.spawned deed' rfl
  obtain rfl := Option.some.inj (there.symm.trans there')
  exact (Duty.worker.inj (duty.symm.trans duty')).2

/-- A pass that has ended has had no jobs, or it has looked at the registry and has found them. -/
theorem found_jobs (here : m.threads[m₀.threads.length]? = some t)
    (ended : t.rest.ended?.isSome = true) :
    (m₀.shared.jobs m₀.alive = [] ∧ ∀ x ∈ t.past, ∀ job, x.request ≠ .spawnWorker job) ∨
      ∃ token username found before after m₁ m₂,
        m₀.shared.jobs m₀.alive = found.map (·.job token username) ∧
          PassRun m₀ m₁ m₂ m before after token username found conduct := by
  obtain ⟨r, ended⟩ := Option.isSome_iff_exists.mp ended
  obtain ⟨pass, rfl, reckoned⟩ := p.reckoned here ended
  generalize known : t.past = past at reckoned
  rw [Shared.jobs, ← known]
  cases reckoned with
  | @idle seen name lacks =>
      obtain ⟨current, username⟩ := p.opened here known
      refine .inl ⟨?_, by simp [known]⟩
      rw [current, username]
      rcases lacks with rfl | rfl
      · rfl
      · cases seen <;> rfl
  | @served token username found later =>
      obtain ⟨current, name⟩ := p.opened here known
      obtain ⟨rfl, before, after, m₁, m₂, _, run⟩ := p.passRun here known
      rw [current, name]
      exact .inr ⟨token, username, _, before, after, m₁, m₂, rfl, run⟩

/-- A worker that the pass has started is for one of its jobs. -/
theorem mem_jobs (here : m.threads[m₀.threads.length]? = some t)
    (ended : t.rest.ended?.isSome = true) {job : ConnectionJob} {w : WorkerId}
    (spawned : (⟨.spawnWorker job, w⟩ : Exchange) ∈ t.past) : job ∈ m₀.shared.jobs m₀.alive := by
  rcases p.found_jobs here ended with ⟨_, none⟩ | ⟨token, username, found, _, _, _, _, jobs, run⟩
  · exact absurd rfl (none _ spawned job)
  · obtain ⟨worker, late, there, duty⟩ := run.hired here spawned
    obtain ⟨_, x, inside, rfl⟩ := run.worker (Nat.le_of_lt late) there duty
    rw [jobs]
    exact List.mem_map_of_mem inside

/-- The worker for a job has ended, if the pass has. -/
theorem worker_of_job (here : m.threads[m₀.threads.length]? = some t)
    (ended : t.rest.ended?.isSome = true) {job : ConnectionJob}
    (inside : job ∈ m₀.shared.jobs m₀.alive) :
    ∃ w worker, (⟨.spawnWorker job, w⟩ : Exchange) ∈ t.past ∧
      Employed (conduct job.id) m₀.threads.length job w.number m₀ m
        (.began .reauthenticate :: trace) worker ∧ worker.rest.ended?.isSome = true := by
  rcases p.found_jobs here ended with ⟨none, _⟩ | ⟨token, username, found, _, _, _, _, jobs, run⟩
  · rw [none] at inside
    cases inside
  · rw [jobs] at inside
    obtain ⟨x, listed, rfl⟩ := List.mem_map.mp inside
    obtain ⟨r, ended⟩ := Option.isSome_iff_exists.mp ended
    obtain ⟨w, o, spawned, joined⟩ := (run.served here ended).2 x listed
    obtain ⟨worker, late, there, duty⟩ := run.hired here spawned
    refine ⟨w, worker, spawned,
      ⟨p.run, Nat.le_of_lt late, there, duty, fun d happened _ same => ?_⟩,
      Thread.ended_of_outcome? (run.outcome_of_joined here there joined)⟩
    have deed := (List.mem_cons.mp happened).resolve_left fun same => by cases same
    exact (p.attended.serves deed).fits.governed _ same

/-- The commands for the connection of a worker are those of its members. -/
theorem shareOf_commandsTo (ordered : m₀.shared.registry.Ordered)
    (here : m.threads[m₀.threads.length]? = some t) {job : ConnectionJob} {w : WorkerId}
    (spawned : (⟨.spawnWorker job, w⟩ : Exchange) ∈ t.past) (j : Nat) :
    shareOf j (commandsTo job.id trace) =
      sent ((.began .reauthenticate :: trace).filterMap (Label.served? w.number j)) := by
  rw [List.filterMap_cons_none rfl, shareOf, commandsTo, List.filterMap_filterMap, sent,
    ← List.filterMap_eq_filter, List.filterMap_filterMap]
  refine List.filterMap_congr fun l inside => ?_
  cases l with
  | began c => rfl
  | dropped c => rfl
  | did d =>
      obtain ⟨i, duty, member, past, x⟩ := d
      cases member with
      | none => cases duty <;> rfl
      | some place =>
          obtain ⟨k, endpoint⟩ := place
          have other : i ≠ m₀.threads.length := fun own => by
            cases (p.own_deed inside own).2
          obtain ⟨job', isWorker, spawned'⟩ := p.spawned here inside other
          obtain rfl : duty = .worker m₀.threads.length job' := isWorker
          have same : job'.id = job.id ↔ i = w.number := by
            refine ⟨fun same => ?_, fun number => ?_⟩
            · exact congrArg WorkerId.number (p.one_worker ordered here spawned' spawned same)
            · subst number
              rw [p.one_job here spawned' spawned]
          simp only [Label.command?, Label.served?, same]
          by_cases number : i = w.number <;> by_cases place : k = j <;>
            cases auth : x.request.isAuth <;> simp [number, place, auth, Option.guard]

/-- What the endpoints of a connection were sent by the end of a pass. -/
theorem sent (ordered : m₀.shared.registry.Ordered) (here : m.threads[m₀.threads.length]? = some t)
    (ended : t.rest.ended?.isSome = true) {job : ConnectionJob}
    (inside : job ∈ m₀.shared.jobs m₀.alive) :
    (conduct job.id).Sent e.policy.immediateRetries job (commandsTo job.id trace) := by
  obtain ⟨w, worker, spawned, employed, done⟩ := p.worker_of_job here ended inside
  exact employed.sent done (p.shareOf_commandsTo ordered here spawned)

/-- Only the endpoints of the connections that a pass has jobs for were sent commands. -/
theorem not_sent (here : m.threads[m₀.threads.length]? = some t)
    (ended : t.rest.ended?.isSome = true) {id : ConnectionId}
    (jobless : ∀ job ∈ m₀.shared.jobs m₀.alive, job.id ≠ id) : commandsTo id trace = [] := by
  rw [commandsTo, List.filterMap_eq_nil_iff]
  intro l inside
  cases l with
  | began c => rfl
  | dropped c => rfl
  | did d =>
      obtain ⟨i, duty, member, past, x⟩ := d
      cases member with
      | none => cases duty <;> rfl
      | some place =>
          have other : i ≠ m₀.threads.length := fun own => by
            cases (p.own_deed inside own).2
          obtain ⟨job, isWorker, spawned⟩ := p.spawned here inside other
          obtain rfl : duty = .worker m₀.threads.length job := isWorker
          exact if_neg fun same => jobless _ (p.mem_jobs here ended spawned) same.1

/-- Two passes that have ended have sent each endpoint the same commands, where no part of the work
on its connection panics or the answers come in the same order. -/
theorem same_commands {m' : Machine e} {trace' : List Label} {t' : Thread e}
    (p' : Lone outside conduct .reauthenticate m₀ m' trace') (ordered : m₀.shared.registry.Ordered)
    (here : m.threads[m₀.threads.length]? = some t)
    (here' : m'.threads[m₀.threads.length]? = some t')
    (ended : t.rest.ended?.isSome = true) (ended' : t'.rest.ended?.isSome = true)
    {id : ConnectionId} (same : ¬ (conduct id).Panics e.policy.immediateRetries ∨
      ∃ order, InOrder order (commandsTo id trace) ∧ InOrder order (commandsTo id trace'))
    (j : Nat) :
    shareOf j (commandsTo id trace) = shareOf j (commandsTo id trace') := by
  by_cases listed : ∃ job ∈ m₀.shared.jobs m₀.alive, job.id = id
  · obtain ⟨job, inside, rfl⟩ := listed
    exact (p.sent ordered here ended inside).share_eq (p'.sent ordered here' ended' inside) same
  · have none (job : ConnectionJob) (inside : job ∈ m₀.shared.jobs m₀.alive) : job.id ≠ id :=
      fun same => listed ⟨job, inside, same⟩
    rw [p.not_sent here ended none, p'.not_sent here' ended' none]

end Lone

end TokenKeeper
