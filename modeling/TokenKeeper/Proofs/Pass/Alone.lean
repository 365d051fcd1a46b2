import TokenKeeper.Proofs.Call.Alone
import TokenKeeper.Proofs.Pass.Verdict

/-!
# Passes that run alone

A pass that runs while all other tasks wait changes nothing but the registry. The token, the
username and the stale connections that it finds are those at its beginning, so its result and the
state that it leaves are a function of that state and of the conducts.
-/

namespace TokenKeeper

open Engine (opening finding)

variable {e : Engine} {m m₀ : Machine e} {trace : List Label} {d : Deed} {q : Request}
variable {outside : Answerer} {conduct : ConnectionId → Conduct} {t : Thread e}
variable {r : Except Panic Output}

namespace Request

/-- The requests of a pass, of its workers and of their members. -/
def IsOfPass (q : Request) : Prop := q.IsPassing ∨ q.IsWorking ∨ q.isServing = true

/-- The identity service and the backoff. -/
def isService : Request → Bool
  | getToken _ | backoff _ _ => true
  | _ => false

theorem IsOfPass.isService (part : q.IsOfPass) : q.isService = false := by
  cases q with
  | getToken => rcases part with part | part | part <;> cases part
  | backoff => rcases part with part | part | part <;> cases part
  | _ => rfl

end Request

/-- A pass changes nothing of the shared state but the registry. -/
theorem Shared.after_of_pass (s : Shared) (alive : Connection → Bool) (part : q.IsOfPass) :
    s.after alive q = { s with registry := (s.after alive q).registry } := by
  cases q with
  | setUsernameIfAbsent | offer | tryEnter | leave | lockHeartbeat | unlockHeartbeat
  | startHeartbeat | stopHeartbeat | shutDown => rcases part with part | part | part <;> cases part
  | _ => rfl

/-- What a pass returns that begins in this state and runs alone, and the state that it leaves. -/
def Shared.passed (s : Shared) (alive : Connection → Bool) (retries : Nat)
    (conduct : ConnectionId → Conduct) : Pass × Shared :=
  match s.store.current, s.store.username with
  | some token, some _ =>
    (.ofFound retries conduct ((s.registry.prune alive).behind token.expiresAt),
      { s with registry := s.registry.afterPass alive retries conduct token.expiresAt })
  | _, _ => ({}, s)

/-- How the worker for a job has to come out. -/
def ConnectionJob.verdict? (retries : Nat) (conduct : ConnectionId → Conduct)
    (job : ConnectionJob) : Option ConnectionOutcome :=
  (conduct job.id).verdict? retries

/-- How the worker of a number has to come out. -/
def Machine.verdict? (m : Machine e) (conduct : ConnectionId → Conduct) (w : WorkerId) :
    Option ConnectionOutcome :=
  m.threads[w.number]?.bind fun t =>
    match t.duty with
    | .worker _ job => job.verdict? e.policy.immediateRetries conduct
    | .call _ => none

/-- A worker that was waited for has come out as its conduct calls for. -/
theorem PassRun.judged {m₁ m₂ : Machine e} {before after : List Label} {token : Token}
    {username : String} {found : List Tracked}
    (p : PassRun m₀ m₁ m₂ m before after token username found conduct)
    (here : m.threads[m₀.threads.length]? = some t) {job : ConnectionJob} {w : WorkerId}
    {o : Except Panic ConnectionOutcome} (spawned : (⟨.spawnWorker job, w⟩ : Exchange) ∈ t.past)
    (joined : (⟨.joinWorker w, o⟩ : Exchange) ∈ t.past) :
    o.toOption = job.verdict? e.policy.immediateRetries conduct := by
  obtain ⟨worker, late, there, duty⟩ := p.hired here spawned
  have met := p.worker_meets late there duty
  have outcome := p.outcome_of_joined here there joined
  unfold Thread.outcome? at outcome
  split at outcome
  · rename_i o' same
    rw [same] at met
    obtain ⟨o'', isOutcome, comesTo, _⟩ := met
    obtain rfl := Option.some.inj outcome
    obtain rfl := Output.outcome.inj isOutcome
    exact comesTo.verdict?_eq.symm
  · rename_i panicked same
    rw [same] at met
    obtain rfl := Option.some.inj outcome
    exact (Conduct.verdict?_of_panics met).symm
  · cases outcome

namespace Lone

variable (p : Lone outside conduct .reauthenticate m₀ m trace)
include p

theorem lonePass : LonePass conduct m₀ m trace where
  run := p.run
  alone := fun _ happened _ => (p.attended.serves happened).fits.inPass
  governed := fun _ job happened _ duty => (p.attended.serves happened).fits.governed job duty

theorem isOfPass (happened : .did d ∈ trace) : d.exchange.request.IsOfPass := by
  have inside := List.mem_cons_of_mem (.began .reauthenticate) happened
  have sound := p.run.sound inside
  cases serving : d.exchange.request.isServing with
  | true => exact .inr (.inr serving)
  | false =>
      have asked := sound.mayAsk (Deed.member_eq_none sound serving)
      rcases (p.attended.serves happened).fits.inPass with own | ⟨_, job, duty⟩
      · rw [(p.own_deed happened own).1] at asked
        exact .inl asked
      · rw [duty] at asked
        exact .inr (.inl asked)

/-- A pass changes nothing but the registry. -/
theorem shared_eq : m.shared = { m₀.shared with registry := m.shared.registry } := by
  induction trace using List.reverseRecOn generalizing m with
  | nil =>
      obtain ⟨middle, none, step⟩ :=
        (show Run m₀ ([] ++ [.began .reauthenticate]) m from p.run).last
      obtain rfl := none.eq_of_nil
      rw [step.shared_of_began]
  | append_singleton trace l ih =>
      obtain ⟨d, rfl, _⟩ := p.attended l (List.mem_append_right _ List.mem_cons_self)
      obtain ⟨before, after, first, step, rest⟩ := p.cut
      obtain rfl := rest.eq_of_nil
      have part := p.isOfPass (List.mem_append_right _ List.mem_cons_self)
      rw [step.shared, Shared.after_of_pass before.shared before.alive part, ih first]

/-- What the task of a pass has found in the store is what was there at the beginning. -/
theorem looked (here : m.threads[m₀.threads.length]? = some t) {earlier rest : List Exchange}
    {a b : q.Answer} (past : t.past = earlier ++ ⟨q, a⟩ :: rest)
    (decided : ∀ registry, Shared.answer? { m₀.shared with registry } m₀.alive q = some b) :
    a = b := by
  have deed := (p.run.history (Nat.le_refl _) here).own _ _ _ past
  obtain ⟨first, back, rfl⟩ :=
    List.append_of_mem ((List.mem_cons.mp deed).resolve_left nofun)
  obtain ⟨before, after, p', step, _⟩ := p.cut
  refine step.answer rfl ?_
  rw [p'.shared_eq, p'.alive]
  exact decided _

/-- The workers that the pass has started come out as their conducts call for. -/
theorem reckons (here : m.threads[m₀.threads.length]? = some t) {x : Exchange}
    (inside : x ∈ t.past) : Engine.Reckons (m.verdict? conduct)
      (ConnectionJob.verdict? e.policy.immediateRetries conduct) x := by
  have started {job : ConnectionJob} {w : WorkerId}
      (spawned : (⟨.spawnWorker job, w⟩ : Exchange) ∈ t.past) :
      m.verdict? conduct w = job.verdict? e.policy.immediateRetries conduct := by
    obtain ⟨_, deed⟩ := p.run.deed_of_past (Nat.le_refl _) here spawned
    obtain ⟨_, worker, there, duty⟩ := p.run.spawned deed rfl
    rw [Machine.verdict?, there, Option.bind_some, duty]
  obtain ⟨duty, _⟩ := p.known here
  refine ⟨fun job w same => started (same ▸ inside), ?_⟩
  rintro w o rfl
  -- A worker that is waited for was started after the look at the registry.
  obtain ⟨past, join⟩ := p.run.deed_of_past (Nat.le_refl _) here inside
  obtain ⟨job, earlier⟩ := Deed.pass_asks (p.run.sound join) rfl duty
  obtain ⟨_, _, at_', _, cut⟩ := p.run.recorded join rfl
  obtain rfl := Option.some.inj (here.symm.trans at_')
  have spawned : (⟨.spawnWorker job, w⟩ : Exchange) ∈ t.past := by
    rw [cut]
    exact List.mem_append_left _ earlier
  obtain ⟨first, later, split, deed⟩ := (p.run.history (Nat.le_refl _) here).own.of_mem spawned
  obtain ⟨found, more, _, _, _, rfl⟩ := Deed.pass_asks (p.run.sound deed) rfl duty
  have past : t.past = opening job.token job.username ++ finding job.token found ::
      (more ++ ⟨.spawnWorker job, w⟩ :: later) := by
    rw [split, List.nil_append, List.append_assoc]
    rfl
  obtain ⟨_, _, _, _, _, run⟩ := p.lonePass.passRun here past
  rw [run.judged here spawned inside, started spawned]

/-- A pass that has only looked at the store has left the registry alone. -/
theorem registry_of_idle (here : m.threads[m₀.threads.length]? = some t) {seen : Option Token}
    {name : Option String} (past : t.past = [⟨.currentToken, seen⟩, ⟨.username, name⟩]) :
    m.shared.registry = m₀.shared.registry := by
  apply p.run.registry_of_untouched
  intro d inside
  have happened := (List.mem_cons.mp inside).resolve_left nofun
  have number : d.thread = m₀.threads.length := by
    by_contra other
    obtain ⟨job, _, spawned⟩ := p.spawned here happened other
    simp [past] at spawned
  obtain ⟨t', rest, here', _, cut⟩ := p.run.recorded inside (p.own_deed happened number).2
  rw [number] at here'
  obtain rfl := Option.some.inj (here'.symm.trans here)
  have known : d.exchange ∈ t'.past := by
    rw [cut]
    exact List.mem_append_right _ List.mem_cons_self
  rw [past] at known
  rcases List.mem_cons.mp known with same | known
  · rw [same]
    rfl
  · rw [List.mem_singleton.mp known]
    rfl

/-- What a pass has found in the store and in the registry is what was there at the beginning. -/
theorem opened (here : m.threads[m₀.threads.length]? = some t) {seen : Option Token}
    {name : Option String} {later : List Exchange}
    (past : t.past = ⟨.currentToken, seen⟩ :: ⟨.username, name⟩ :: later) :
    m₀.shared.store.current = seen ∧ m₀.shared.store.username = name := by
  have current : seen = m₀.shared.store.current :=
    p.looked here (show t.past = [] ++ _ :: _ from past) fun _ => rfl
  have username : name = m₀.shared.store.username :=
    p.looked here (show t.past = [⟨.currentToken, seen⟩] ++ _ :: _ from past) fun _ => rfl
  exact ⟨current.symm, username.symm⟩

/-- A pass that has ended has a result, which is reckoned for it. -/
theorem reckoned (here : m.threads[m₀.threads.length]? = some t) (ended : t.rest.ended? = some r) :
    ∃ pass, r = .ok (.pass pass) ∧ Engine.PassReckoned
      (ConnectionJob.verdict? e.policy.immediateRetries conduct) t.past (.ok pass) := by
  obtain ⟨duty, _⟩ := p.known here
  have reached := t.sound
  rw [duty] at reached
  have contract : (Call.reauthenticate.program e).Meets _ _ _ [] :=
    Call.reauthenticate_reckons (m.verdict? conduct)
      (ConnectionJob.verdict? e.policy.immediateRetries conduct)
  refine contract.ended reached ended fun earlier x later cut => p.reckons here ?_
  rw [show t.past = earlier ++ x :: later from cut]
  exact List.mem_append_right _ List.mem_cons_self

/-- A pass that has looked at the registry, with what it has found there. -/
theorem passRun {token : Token} {username : String} {found : List Tracked} {later : List Exchange}
    (here : m.threads[m₀.threads.length]? = some t)
    (past : t.past = opening token username ++ finding token found :: later) :
    found = (m₀.shared.registry.prune m₀.alive).behind token.expiresAt ∧
      ∃ before after m₁ m₂, m₁.alive = m₀.alive ∧
        PassRun m₀ m₁ m₂ m before after token username found conduct := by
  obtain ⟨before, after, m₁, m₂, rfl, run⟩ := p.lonePass.passRun here past
  have alive : m₁.alive = m₀.alive := Lone.alive ⟨run.first, p.attended.left⟩
  have stale := run.found_eq
  rw [run.registry_looked, alive] at stale
  exact ⟨stale, before, after, m₁, m₂, alive, run⟩

/-- A pass that has ended has returned what is reckoned for it, and has left the state so. -/
theorem passed (ordered : m₀.shared.registry.Ordered)
    (here : m.threads[m₀.threads.length]? = some t) (ended : t.rest.ended? = some r) :
    r = .ok (.pass (m₀.shared.passed m₀.alive e.policy.immediateRetries conduct).1) ∧
      m.shared = (m₀.shared.passed m₀.alive e.policy.immediateRetries conduct).2 := by
  obtain ⟨pass, rfl, reckoned⟩ := p.reckoned here ended
  generalize known : t.past = past at reckoned
  rw [Shared.passed]
  cases reckoned with
  | @idle seen name lacks =>
      obtain ⟨current, username⟩ := p.opened here known
      have untouched : m.shared.registry = m₀.shared.registry :=
        p.registry_of_idle here known
      rw [current, username, p.shared_eq, untouched]
      rcases lacks with rfl | rfl
      · exact ⟨rfl, rfl⟩
      · cases seen <;> exact ⟨rfl, rfl⟩
  | @served token username found later =>
      obtain ⟨current, name⟩ := p.opened here known
      obtain ⟨stale, before, after, m₁, m₂, alive, run⟩ := p.passRun here known
      have registry := run.registry_eq ordered here ended
      rw [alive] at registry
      rw [current, name, p.shared_eq, registry, stale]
      exact ⟨rfl, rfl⟩

end Lone
end TokenKeeper
