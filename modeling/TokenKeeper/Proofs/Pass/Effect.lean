import Mathlib.Data.List.Basic
import TokenKeeper.Proofs.Call.Progress
import TokenKeeper.Proofs.Connection.Numbers
import TokenKeeper.Proofs.Machine.Play

/-!
# What one pass does to the registry

A pass runs among other tasks, its workers run side by side, and so do the members of each
worker. As long as nobody else touches the registry the result does not depend on the order: the
entries whose connection was gone when the pass looked are dropped, and each stale connection
gets what its own conduct calls for, whatever the others do.
-/

namespace TokenKeeper

open Engine (opening finding)

variable {e : Engine}

/-- What becomes of the entry of a connection that was alive when a pass looked. -/
def Tracked.afterPass? (retries : Nat) (conduct : ConnectionId → Conduct) (expiry : Instant)
    (x : Tracked) : Option Tracked :=
  if x.tag < expiry then
    if (conduct x.id).Closes retries then none
    else if (conduct x.id).Accepts retries then some { x with tag := expiry }
    else some x
  else some x

/-- The registry after a pass that looked when these connections were alive. -/
def Registry.afterPass (r : Registry) (alive : Connection → Bool) (retries : Nat)
    (conduct : ConnectionId → Conduct) (expiry : Instant) : Registry :=
  { r with
    entries := (r.prune alive).entries.filterMap (Tracked.afterPass? retries conduct expiry) }

/-- A run in which a pass begins, nobody else touches the registry, and the outside treats the
workers as their conducts say. Other tasks may do anything else at any time. -/
structure LonePass (conduct : ConnectionId → Conduct) (m₀ m : Machine e) (trace : List Label) :
    Prop where
  run : Run m₀ (.began .reauthenticate :: trace) m
  alone : ∀ d, .did d ∈ trace → d.exchange.request.touchesRegistry = true →
    d.InPass m₀.threads.length
  governed : ∀ d job, .did d ∈ trace → m₀.threads.length < d.thread →
    d.duty = .worker m₀.threads.length job → (conduct job.id).Governs d

namespace LonePass

variable {m m' m₀ : Machine e} {trace : List Label} {conduct : ConnectionId → Conduct}

/-- The run goes on with deeds of the pass. -/
theorem extend {more : List Label} (p : LonePass conduct m₀ m trace) (onward : Run m more m')
    (fits : ∀ l ∈ more, ∃ d, l = .did d ∧ d.Fits m₀.threads.length conduct) :
    LonePass conduct m₀ m' (trace ++ more) := by
  have fitting {d : Deed} (inside : .did d ∈ more) : d.Fits m₀.threads.length conduct := by
    obtain ⟨d', same, here⟩ := fits _ inside
    rwa [Label.did.inj same]
  refine ⟨p.run.trans onward, ?_, ?_⟩
  · intro d inside touches
    rcases List.mem_append.mp inside with inside | inside
    · exact p.alone d inside touches
    · exact (fitting inside).inPass
  · intro d job inside late duty
    rcases List.mem_append.mp inside with inside | inside
    · exact p.governed d job inside late duty
    · exact (fitting inside).governed job duty

/-- Wherever it is, a pass can be brought to its end. -/
theorem can_end (p : LonePass conduct m₀ m trace) :
    ∃ (more : List Label) (m' : Machine e) (t' : Thread e),
      LonePass conduct m₀ m' (trace ++ more) ∧
        m'.threads[m₀.threads.length]? = some t' ∧ t'.rest.ended?.isSome = true := by
  obtain ⟨t, here, duty⟩ := p.run.begun
  obtain ⟨more, m', t', onward, attended, last, ended⟩ :=
    p.run.plain_can_end (fun _ q => q.blank) conduct (Nat.le_refl _) here duty trivial
  refine ⟨more, m', t', p.extend onward fun l inside => ?_, last, ended⟩
  obtain ⟨d, same, serves⟩ := attended l inside
  exact ⟨d, same, serves.fits⟩

end LonePass

/-- A pass that has looked at the registry, with nobody else touching the registry since it
began. -/
structure PassRun (m₀ m₁ m₂ m : Machine e) (before after : List Label) (token : Token)
    (username : String) (found : List Tracked) (conduct : ConnectionId → Conduct) : Prop where
  first : Run m₀ (.began .reauthenticate :: before) m₁
  look : Step m₁ (.did ⟨m₀.threads.length, .call .reauthenticate, none, opening token username,
    finding token found⟩) m₂
  rest : Run m₂ after m
  alone : ∀ d, .did d ∈ before ∨ .did d ∈ after →
    d.exchange.request.touchesRegistry = true → d.InPass m₀.threads.length
  governed : ∀ d job, .did d ∈ after → m₀.threads.length < d.thread →
    d.duty = .worker m₀.threads.length job → (conduct job.id).Governs d

namespace PassRun

variable {m₀ m₁ m₂ m : Machine e} {before after : List Label} {token : Token}
variable {username : String} {found : List Tracked} {conduct : ConnectionId → Conduct}

/-- The part of the run up to some point is such a run as well. -/
theorem upTo {later : List Label} {middle : Machine e}
    (p : PassRun m₀ m₁ m₂ m before (after ++ later) token username found conduct)
    (rest : Run m₂ after middle) :
    PassRun m₀ m₁ m₂ middle before after token username found conduct where
  first := p.first
  look := p.look
  rest := rest
  alone := fun d inside => p.alone d (inside.imp_right (List.mem_append_left _))
  governed := fun d job inside => p.governed d job (List.mem_append_left _ inside)

section

variable (p : PassRun m₀ m₁ m₂ m before after token username found conduct)
include p

/-- Before the look the task of the pass has only opened. -/
theorem opened : ∃ t, m₁.threads[m₀.threads.length]? = some t ∧
    t.past = opening token username := by
  obtain ⟨t, here, _, past⟩ := p.look.actor
  exact ⟨t, here, (past rfl).1⟩

theorem looked : ∃ t, m₂.threads[m₀.threads.length]? = some t ∧
    t.duty = .call .reauthenticate ∧
    t.past = opening token username ++ [finding token found] :=
  p.look.recorded rfl

/-- The task of the pass at the end. -/
theorem task : ∃ t more, m.threads[m₀.threads.length]? = some t ∧
    t.duty = .call .reauthenticate ∧
    t.past = opening token username ++ finding token found :: more := by
  obtain ⟨t, here, duty, past⟩ := p.looked
  obtain ⟨t', last, grows⟩ := p.rest.grows here
  obtain ⟨more, now⟩ := grows.past
  refine ⟨t', more, last, grows.duty.trans duty, ?_⟩
  rw [now, past, List.append_assoc]
  rfl

/-- Nothing that the pass did before its look had to do with the registry or with workers. -/
theorem opening_deed {d : Deed} (happened : .did d ∈ before)
    (own : d.thread = m₀.threads.length) (other : d.exchange.request.isServing = false) :
    d.exchange ∈ opening token username := by
  have inside : .did d ∈ Label.began .reauthenticate :: before := List.mem_cons_of_mem _ happened
  obtain ⟨t, later, here, _, past⟩ := p.first.recorded inside
    (Deed.member_eq_none (p.first.sound inside) other)
  obtain ⟨t₁, here₁, past₁⟩ := p.opened
  rw [own] at here
  obtain rfl := Option.some.inj (here.symm.trans here₁)
  rw [← past₁, past]
  exact List.mem_append_right _ List.mem_cons_self

/-- No worker of the pass exists before its look. -/
theorem no_worker {i : Nat} {t : Thread e} {job : ConnectionJob}
    (low : m₀.threads.length ≤ i) (here : m₂.threads[i]? = some t) :
    t.duty ≠ .worker m₀.threads.length job := by
  intro duty
  have kept := (p.first.snoc p.look).history low here
  obtain ⟨duty', member, past, spawned⟩ := kept.origin _ _ duty
  rcases List.mem_append.mp spawned with inside | inside
  · have happened := (List.mem_cons.mp inside).resolve_left nofun
    have opened := p.opening_deed happened rfl rfl
    simp [opening] at opened
  · have same := Label.did.inj (List.mem_singleton.mp inside)
    cases same

/-- The registry right after the look: only entries of lost connections are gone. -/
theorem registry_looked : m₂.shared.registry = m₀.shared.registry.prune m₁.alive := by
  have untouched : m₁.shared.registry = m₀.shared.registry := by
    refine p.first.registry_of_untouched fun d inside => ?_
    have happened := (List.mem_cons.mp inside).resolve_left nofun
    cases touches : d.exchange.request.touchesRegistry with
    | false => rfl
    | true =>
        have other := Request.isServing_of_touchesRegistry touches
        rcases p.alone d (.inl happened) touches with own | ⟨late, job, duty⟩
        · have opened := p.opening_deed happened own other
          simp only [opening, List.mem_cons, List.not_mem_nil, or_false] at opened
          rcases opened with same | same <;> rw [same] at touches <;> cases touches
        · obtain ⟨t, _, here, same, _⟩ := (p.first.snoc p.look).recorded
            (List.mem_append_left _ inside) (Deed.member_eq_none (p.first.sound inside) other)
          exact absurd (same.trans duty) (p.no_worker (Nat.le_of_lt late) here)
  rw [p.look.shared, ← untouched]
  rfl

theorem found_eq : found = m₂.shared.registry.behind token.expiresAt := by
  have answered : found = (m₁.shared.registry.stale m₁.alive token.expiresAt).2 :=
    p.look.answer rfl rfl
  rw [answered, p.look.shared]
  rfl

/-- A worker of the pass serves a connection that the pass found. -/
theorem worker {i : Nat} {t : Thread e} {job : ConnectionJob} (late : m₀.threads.length ≤ i)
    (here : m.threads[i]? = some t) (duty : t.duty = .worker m₀.threads.length job) :
    m₂.threads.length ≤ i ∧ ∃ x ∈ found, job = x.job token username := by
  have new : m₂.threads.length ≤ i := by
    by_contra old
    obtain ⟨t₂, here₂⟩ : ∃ t₂, m₂.threads[i]? = some t₂ :=
      ⟨_, List.getElem?_eq_getElem (Nat.not_le.mp old)⟩
    obtain ⟨t', last, grows⟩ := p.rest.grows here₂
    obtain rfl := Option.some.inj (last.symm.trans here)
    exact p.no_worker late here₂ (grows.duty.symm.trans duty)
  refine ⟨new, ?_⟩
  have kept := p.rest.history new here
  obtain ⟨duty', member, past, spawned⟩ := kept.origin _ _ duty
  have sound := p.rest.sound spawned
  have own := Deed.member_eq_none sound rfl
  obtain ⟨t', later, there, same, cut⟩ := p.rest.recorded spawned own
  obtain ⟨t₀, more, there₀, call, opened⟩ := p.task
  obtain rfl := Option.some.inj (there.symm.trans there₀)
  obtain ⟨found', later', x, inside, isJob, began⟩ :=
    Deed.pass_asks sound own (same.symm.trans call)
  have twice : [] ++ opening job.token job.username ++ (finding job.token found' :: later' ++
      ⟨.spawnWorker job, ⟨i⟩⟩ :: later) = [] ++ opening token username ++
        finding token found :: more := by
    have began : past = opening job.token job.username ++ finding job.token found' :: later' :=
      began
    show opening job.token job.username ++ (finding job.token found' :: later' ++ _) =
      opening token username ++ finding token found :: more
    rw [← opened, cut, began, List.append_assoc]
  obtain ⟨sameToken, sameName, sameLater⟩ := Engine.opening_inj twice
  rw [sameToken, List.cons_append, List.cons.injEq, Exchange.mk.injEq] at sameLater
  rw [← eq_of_heq sameLater.1.2]
  exact ⟨x, inside, by rw [isJob, sameToken, sameName]⟩

/-- What a worker of the pass has asked and how it ends is as the conduct says. -/
theorem worker_meets {i : Nat} {t : Thread e} {job : ConnectionJob}
    (late : m₀.threads.length < i) (here : m.threads[i]? = some t)
    (duty : t.duty = .worker m₀.threads.length job) :
    t.rest.Meets ((conduct job.id).Explains e.policy.immediateRetries)
      ((conduct job.id).Records e.policy.immediateRetries job)
      ((conduct job.id).WorkerEnds e.policy.immediateRetries job) t.past := by
  obtain ⟨new, _⟩ := p.worker (Nat.le_of_lt late) here duty
  have kept := p.rest.history new here
  have reached := t.sound
  rw [duty] at reached
  have met := ConnectionJob.program_meets (conduct job.id) e.policy.immediateRetries job
  exact met.reaches reached fun earlier x later cut =>
    kept.explains (fun d inside number same => p.governed d job inside (number ▸ late)
      (same.trans duty)) cut

/-- After the look the registry is touched only to record the outcomes of found connections. -/
theorem records {d : Deed} (happened : .did d ∈ after)
    (touches : d.exchange.request.touchesRegistry = true) :
    ∃ x ∈ found,
      d.exchange.request = .untrack x.id ∧ (conduct x.id).Closes e.policy.immediateRetries ∨
      d.exchange.request = .mark x.id token.expiresAt ∧
        (conduct x.id).Accepts e.policy.immediateRetries := by
  have other := Request.isServing_of_touchesRegistry touches
  have sound := p.rest.sound happened
  have alone := Deed.member_eq_none sound other
  obtain ⟨earlier, later, rfl⟩ := List.append_of_mem happened
  obtain ⟨middle, _, sofar, step, _⟩ := p.rest.cut
  have q := p.upTo sofar
  obtain ⟨t, here, same, known⟩ := step.actor
  obtain ⟨past, resume, asks⟩ := known alone
  rcases p.alone d (.inr happened) touches with own | ⟨late, job, duty⟩
  · -- The task of the pass looked at the registry once, and that was before.
    obtain ⟨t', more, here', call, opened⟩ := q.task
    rw [← own] at here'
    obtain rfl := Option.some.inj (here'.symm.trans here)
    have allowed := Deed.pass_asks sound alone (same.symm.trans call)
    rw [← past, opened] at allowed
    cases request : d.exchange.request with
    | stale expiry =>
        rw [request] at allowed
        obtain ⟨token', username', early, _⟩ := allowed
        have lengths := congrArg List.length early
        simp [opening] at lengths
    | track => rw [request] at allowed; exact allowed.elim
    | mark => rw [request] at allowed; exact allowed.elim
    | untrack => rw [request] at allowed; exact allowed.elim
    | _ => rw [request] at touches; cases touches
  · have task := same.trans duty
    obtain ⟨_, x, inside, rfl⟩ := q.worker (Nat.le_of_lt late) here task
    have met := q.worker_meets late here task
    rw [asks] at met
    have allowed := met.1
    refine ⟨x, inside, ?_⟩
    cases request : d.exchange.request with
    | untrack id =>
        rw [request] at allowed
        obtain ⟨rfl, closes⟩ := allowed
        exact .inl ⟨rfl, closes⟩
    | mark id expiry =>
        rw [request] at allowed
        obtain ⟨rfl, rfl, accepts⟩ := allowed
        exact .inr ⟨rfl, accepts⟩
    | track => rw [request] at allowed; exact allowed.elim
    | stale => rw [request] at allowed; exact allowed.elim
    | _ => rw [request] at touches; cases touches

/-- A pass ends with a pass, after it has started a worker for each connection that it found and
has waited for it. -/
theorem served {t : Thread e} {r : Except Panic Output}
    (here : m.threads[m₀.threads.length]? = some t) (ended : t.rest.ended? = some r) :
    (∃ pass, r = .ok (.pass pass)) ∧ ∀ x ∈ found, ∃ w o,
      (⟨.spawnWorker (x.job token username), w⟩ : Exchange) ∈ t.past ∧
        (⟨.joinWorker w, o⟩ : Exchange) ∈ t.past := by
  obtain ⟨t', more, here', call, past⟩ := p.task
  obtain rfl := Option.some.inj (here'.symm.trans here)
  obtain ⟨pass, isPass, ends⟩ := Thread.pass_ended call ended
  refine ⟨⟨pass, isPass⟩, fun x inside => ?_⟩
  obtain ⟨found', rest, same, each⟩ := ends.2 token username _ past
  rw [List.cons.injEq, Exchange.mk.injEq] at same
  obtain ⟨w, o, spawned, joined⟩ := each x (eq_of_heq same.1.2 ▸ inside)
  rw [past, same.2]
  exact ⟨w, o, by simp [spawned], by simp [joined]⟩

/-- A worker that the pass has started is there. -/
theorem hired {t : Thread e} (here : m.threads[m₀.threads.length]? = some t) {job : ConnectionJob}
    {w : WorkerId} (spawned : (⟨.spawnWorker job, w⟩ : Exchange) ∈ t.past) :
    ∃ worker, m₀.threads.length < w.number ∧ m.threads[w.number]? = some worker ∧
      worker.duty = .worker m₀.threads.length job := by
  have whole := (p.first.snoc p.look).trans p.rest
  obtain ⟨_, spawn⟩ := whole.deed_of_past (Nat.le_refl _) here spawned
  obtain ⟨_, worker, there, duty⟩ := whole.spawned spawn rfl
  exact ⟨worker, whole.spawned_later spawn rfl, there, duty⟩

/-- A worker that the pass has waited for has ended, with that outcome. -/
theorem outcome_of_joined {t worker : Thread e} (here : m.threads[m₀.threads.length]? = some t)
    {w : WorkerId} (there : m.threads[w.number]? = some worker)
    {o : Except Panic ConnectionOutcome} (joined : (⟨.joinWorker w, o⟩ : Exchange) ∈ t.past) :
    worker.outcome? = some o := by
  have whole := (p.first.snoc p.look).trans p.rest
  obtain ⟨_, join⟩ := whole.deed_of_past (Nat.le_refl _) here joined
  obtain ⟨worker', there', outcome⟩ := whole.joined join rfl
  obtain rfl := Option.some.inj (there'.symm.trans there)
  exact outcome

/-- Once the pass has ended, the outcome of each found connection has been recorded. -/
theorem recorded {t : Thread e} {r : Except Panic Output}
    (here : m.threads[m₀.threads.length]? = some t) (ended : t.rest.ended? = some r) {x : Tracked}
    (inside : x ∈ found) :
    ((conduct x.id).Closes e.policy.immediateRetries →
      asksFor (.untrack x.id) after = true) ∧
    ((conduct x.id).Accepts e.policy.immediateRetries →
      asksFor (.mark x.id token.expiresAt) after = true) := by
  obtain ⟨w, o, spawned, joined⟩ := (p.served here ended).2 x inside
  obtain ⟨worker, late, there, duty⟩ := p.hired here spawned
  have outcome := p.outcome_of_joined here there joined
  have met := p.worker_meets late there duty
  obtain ⟨new, _⟩ := p.worker (Nat.le_of_lt late) there duty
  -- It has recorded its outcome, and a deed of the run is what it did.
  unfold Thread.outcome? at outcome
  split at outcome
  · rename_i o' same
    rw [same] at met
    obtain ⟨o'', isOutcome, comesTo, disposed, reauthenticated⟩ := met
    constructor
    · intro closes
      obtain ⟨a, untracked⟩ := disposed (comesTo.disposed.mpr closes)
      obtain ⟨_, deed⟩ := p.rest.deed_of_past new there untracked
      exact asksFor_iff.mpr ⟨_, deed, rfl⟩
    · intro accepts
      obtain ⟨_, deed⟩ := p.rest.deed_of_past new there
        (reauthenticated (comesTo.reauthenticated.mpr accepts))
      exact asksFor_iff.mpr ⟨_, deed, rfl⟩
  · rename_i panicked same
    rw [same] at met
    exact ⟨fun closes => absurd met closes.1, fun accepts => absurd met accepts.1⟩
  · cases outcome

/-- What was recorded for an entry is what its conduct calls for. -/
theorem recorded?_eq (ordered : m₀.shared.registry.Ordered) {t : Thread e}
    {r : Except Panic Output} (here : m.threads[m₀.threads.length]? = some t)
    (ended : t.rest.ended? = some r) {y : Tracked} (entry : y ∈ m₂.shared.registry.entries) :
    y.recorded? token.expiresAt after =
      y.afterPass? e.policy.immediateRetries conduct token.expiresAt := by
  have keyed : m₂.shared.registry.Ordered := by
    rw [p.registry_looked]
    exact ordered.filter _
  have known {x : Tracked} (inside : x ∈ found) (same : x.id = y.id) : x = y := by
    rw [p.found_eq] at inside
    exact keyed.eq_of_id (List.mem_filter.mp inside).1 entry same
  have stale : y ∈ found ↔ y.tag < token.expiresAt := by
    rw [p.found_eq, Registry.behind, List.mem_filter]
    exact ⟨fun h => of_decide_eq_true h.2, fun h => ⟨entry, decide_eq_true h⟩⟩
  have untracked : asksFor (.untrack y.id) after = true ↔
      y.tag < token.expiresAt ∧ (conduct y.id).Closes e.policy.immediateRetries := by
    constructor
    · intro asks
      obtain ⟨d, happened, request⟩ := asksFor_iff.mp asks
      obtain ⟨x, inside, ⟨same, closes⟩ | ⟨same, _⟩⟩ := p.records happened (by rw [request]; rfl)
      · obtain rfl := known inside (Request.untrack.inj (same.symm.trans request))
        exact ⟨stale.mp inside, closes⟩
      · cases same.symm.trans request
    · rintro ⟨behind, closes⟩
      exact (p.recorded here ended (stale.mpr behind)).1 closes
  have marked : asksFor (.mark y.id token.expiresAt) after = true ↔
      y.tag < token.expiresAt ∧ (conduct y.id).Accepts e.policy.immediateRetries := by
    constructor
    · intro asks
      obtain ⟨d, happened, request⟩ := asksFor_iff.mp asks
      obtain ⟨x, inside, ⟨same, _⟩ | ⟨same, accepts⟩⟩ := p.records happened (by rw [request]; rfl)
      · cases same.symm.trans request
      · obtain rfl := known inside (Request.mark.inj (same.symm.trans request)).1
        exact ⟨stale.mp inside, accepts⟩
    · rintro ⟨behind, accepts⟩
      exact (p.recorded here ended (stale.mpr behind)).2 accepts
  unfold Tracked.recorded? Tracked.afterPass?
  by_cases behind : y.tag < token.expiresAt
  · have latest : y.tag.latest token.expiresAt = token.expiresAt :=
      if_pos (Instant.le_of_lt behind)
    simp only [untracked, marked, behind, true_and, if_true, latest]
  · simp only [untracked, marked, behind, false_and, if_false]

/-- The registry at the end of the pass. -/
theorem registry_eq (ordered : m₀.shared.registry.Ordered) {t : Thread e}
    {r : Except Panic Output} (here : m.threads[m₀.threads.length]? = some t)
    (ended : t.rest.ended? = some r) :
    m.shared.registry = m₀.shared.registry.afterPass m₁.alive e.policy.immediateRetries conduct
      token.expiresAt := by
  have recording := p.rest.registry_of_recording fun d happened touches => by
    obtain ⟨x, _, ⟨same, _⟩ | ⟨same, _⟩⟩ := p.records happened touches
    · exact .inl ⟨x.id, same⟩
    · exact .inr ⟨x.id, same⟩
  rw [recording, Registry.afterPass, ← p.registry_looked]
  congr 1
  · exact List.filterMap_congr fun y entry => p.recorded?_eq ordered here ended entry
  · rw [p.registry_looked]
    rfl

end
end PassRun

/-- A pass that has looked at the registry. -/
theorem LonePass.passRun {m₀ m : Machine e} {trace : List Label} {t : Thread e} {token : Token}
    {username : String} {found : List Tracked} {more : List Exchange}
    {conduct : ConnectionId → Conduct} (lone : LonePass conduct m₀ m trace)
    (here : m.threads[m₀.threads.length]? = some t)
    (past : t.past = opening token username ++ finding token found :: more) :
    ∃ before after m₁ m₂,
      trace = before ++ .did ⟨m₀.threads.length, .call .reauthenticate, none,
        opening token username, finding token found⟩ :: after ∧
      PassRun m₀ m₁ m₂ m before after token username found conduct := by
  obtain ⟨t', here', call⟩ := lone.run.begun
  obtain rfl := Option.some.inj (here'.symm.trans here)
  have kept := lone.run.history (Nat.le_refl _) here
  have look := (List.mem_cons.mp (kept.own _ _ _ past)).resolve_left nofun
  rw [call] at look
  obtain ⟨before, after, rfl⟩ := List.append_of_mem look
  obtain ⟨m₁, m₂, first, step, second⟩ :=
    (show Run m₀ ((.began .reauthenticate :: before) ++ .did _ :: after) m from lone.run).cut
  refine ⟨before, after, m₁, m₂, rfl, first, step, second, ?_, ?_⟩
  · rintro d (inside | inside)
    · exact lone.alone d (List.mem_append_left _ inside)
    · exact lone.alone d (List.mem_append_right _ (List.mem_cons_of_mem _ inside))
  · intro d job inside
    exact lone.governed d job (List.mem_append_right _ (List.mem_cons_of_mem _ inside))

/-- What one pass does to the registry while nobody else touches it. Wherever it is, it can be
brought to its end. If it has found a token and a username, its end is a pass, and the registry
is then what the conducts call for, whatever other tasks have done in between. For a conduct an
endpoint accepts, says that it is closed, or panics, if its first answer that is no refusal is that
one and comes within one command more than there are retries. -/
theorem Machine.registry_after_pass (m₀ : Machine e) (conduct : ConnectionId → Conduct)
    (ordered : m₀.shared.registry.Ordered) :
    (∀ m trace, LonePass conduct m₀ m trace → ∃ (more : List Label) (m' : Machine e)
      (t' : Thread e), LonePass conduct m₀ m' (trace ++ more) ∧
        m'.threads[m₀.threads.length]? = some t' ∧ t'.rest.ended?.isSome = true) ∧
    (∀ m trace t r token username, LonePass conduct m₀ m trace →
      m.threads[m₀.threads.length]? = some t → t.rest.ended? = some r →
      opening token username <+: t.past →
      (∃ pass, r = .ok (.pass pass)) ∧ ∃ before after found m₁ m₂,
        trace = before ++ .did ⟨m₀.threads.length, .call .reauthenticate, none,
          opening token username, finding token found⟩ :: after ∧
        Run m₀ (.began .reauthenticate :: before) m₁ ∧ Run m₂ after m ∧
        m.shared.registry = m₀.shared.registry.afterPass m₁.alive e.policy.immediateRetries
          conduct token.expiresAt) ∧
    ∀ id k r, refuses r = false →
      ((conduct id).reply e.policy.immediateRetries k = r ↔
        ∃ i ≤ e.policy.immediateRetries, (conduct id).replies k i = r ∧
          ∀ j < i, refuses ((conduct id).replies k j) = true) := by
  refine ⟨fun m trace lone => lone.can_end, ?_, fun id k r => Conduct.reply_eq_iff⟩
  rintro m trace t r token username lone here ended ⟨rest, past⟩
  obtain ⟨t', here', call⟩ := lone.run.begun
  obtain rfl := Option.some.inj (here'.symm.trans here)
  obtain ⟨_, _, ends⟩ := Thread.pass_ended call ended
  obtain ⟨found, more, rfl, _⟩ := ends.2 token username rest past.symm
  obtain ⟨before, after, m₁, m₂, rfl, p⟩ := lone.passRun here past.symm
  exact ⟨(p.served here ended).1, before, after, found, m₁, m₂, rfl, p.first, p.rest,
    p.registry_eq ordered here ended⟩

/-- An engine that repeats a refused command once. -/
def Engine.patient : Engine := ⟨{ RefreshPolicy.standard with immediateRetries := 1 }, some "app"⟩

namespace Run

/-- The connection whose endpoint accepts. -/
def firstClient : Connection := ⟨1, "first"⟩

/-- The connection whose endpoint is closed. -/
def secondClient : Connection := ⟨2, "second"⟩

/-- The connection that is lost before the pass. -/
def lostClient : Connection := ⟨3, "lost"⟩

/-- The token that the pass brings to the connections. -/
def acquired : Token := ⟨"new", default, .max⟩

/-- Three connections are tracked, a token is acquired, and one of the connections is lost. -/
def threeTracked : Machine Engine.patient × List Label :=
  ({} : Machine Engine.patient).play
    (.begin (.established firstClient) :: Move.tells 0 2 Request.blank ++
      .begin (.established secondClient) :: Move.tells 1 2 Request.blank ++
      .begin (.established lostClient) :: Move.tells 2 2 Request.blank ++
      .begin (.acquire false) :: Move.tells 3 6 (Request.issuing ⟨"new", .max⟩) ++
      [.drop lostClient])

/-- The one endpoint of a connection. -/
def endpointOf (c : Connection) : Endpoint := ⟨c, 0, "server"⟩

/-- The endpoint refuses the first command and accepts the second. -/
def reluctant : Conduct :=
  ⟨.ok (.ok [endpointOf firstClient]), fun _ => .ok true,
    fun _ attempt =>
      if attempt = 0 then .ok (.error (.commandFailed "server" "busy")) else .ok (.ok ())⟩

/-- The endpoint says that its connection is closed. -/
def closing : Conduct :=
  ⟨.ok (.ok [endpointOf secondClient]), fun _ => .ok true, fun _ _ => .ok (.error .disposed)⟩

/-- The first connection has the reluctant endpoint. -/
def conducts (id : ConnectionId) : Conduct := if id = ⟨1⟩ then reluctant else closing

/-- An outside in which a command is answered like this. -/
def answering (c : Conduct) (attempt : Nat) : (q : Request) → q.Answer
  | .endpoints _ => c.servers
  | .isConnected _ => c.connected 0
  | .auth _ _ _ => c.replies 0 attempt
  | q => q.blank

/-- A pass over the three, in which the two workers take turns. -/
def served : Machine Engine.patient × List Label :=
  threeTracked.1.play
    (.begin .reauthenticate :: Move.tells 4 5 Request.blank ++
      Move.tells 5 2 (answering reluctant 0) ++ Move.tells 6 2 (answering closing 0) ++
      .tellMember 5 0 (answering reluctant 0) :: .tellMember 6 0 (answering closing 0) ::
      .tellMember 5 0 (answering reluctant 1) :: .tellMember 5 0 Request.blank ::
      Move.tells 6 2 Request.blank ++ Move.tells 5 2 Request.blank ++ Move.tells 4 2 Request.blank)

/-- The reluctant endpoint accepts the second command, and its connection is up to date; the one of
the closing endpoint and the lost one are gone. -/
theorem registry_after_served_pass :
    (conducts ⟨1⟩).reply 1 0 = .ok (.ok ()) ∧
    served.1.shared.registry = ⟨[⟨⟨1⟩, firstClient, .max⟩], 4⟩ ∧
    (∃ pass, (some (Except.ok (Output.pass pass)) : Option (Except Panic Output)) =
      (served.1.threads[4]?.bind fun t => t.rest.ended?)) ∧
    ∃ before after found m₁ m₂,
      served.2.tail = before ++ .did ⟨4, .call .reauthenticate, none,
        opening acquired "app", finding acquired found⟩ :: after ∧
      Run threeTracked.1 (.began .reauthenticate :: before) m₁ ∧ Run m₂ after served.1 ∧
      served.1.shared.registry =
        threeTracked.1.shared.registry.afterPass m₁.alive 1 conducts acquired.expiresAt := by
  have ready : Run {} threeTracked.2 threeTracked.1 := Machine.play_run _ _
  have run : Run threeTracked.1 served.2 served.1 := Machine.play_run _ _
  have began : served.2 = .began .reauthenticate :: served.2.tail := by decide +kernel
  rw [began] at run
  have count : threeTracked.1.threads.length = 4 := by decide +kernel
  have alone : everyDeed (fun d => !d.exchange.request.touchesRegistry || d.inPass 4)
      served.2.tail = true := by decide +kernel
  have governed : everyDeed (Deed.governedIn 4 conducts) served.2.tail = true := by
    decide +kernel
  have lone : LonePass conducts threeTracked.1 served.1 served.2.tail := by
    refine ⟨run, ?_, ?_⟩
    · intro d happened touches
      rw [count]
      have check := of_everyDeed alone happened
      rw [touches] at check
      exact Deed.inPass_iff.mp check
    · intro d job happened _ duty
      rw [count] at duty
      exact Deed.governs_of_governedIn (of_everyDeed governed happened) duty
  have task : (served.1.threads[4]?.map fun t => t.past.take 2) =
      some (opening acquired "app") := by decide +kernel
  obtain ⟨t, here, past⟩ := Option.map_eq_some_iff.mp task
  have done : (served.1.threads[4]?.any fun t => t.rest.ended?.isSome) = true := by
    decide +kernel
  rw [here] at done
  obtain ⟨r, ended⟩ := Option.isSome_iff_exists.mp done
  obtain ⟨_, effect, comesTo⟩ := Machine.registry_after_pass threeTracked.1 conducts
    (ready.ordered Registry.Ordered.empty)
  have result := effect served.1 served.2.tail t r acquired "app" lone (count ▸ here) ended
    (past ▸ List.take_prefix 2 t.past)
  rw [count] at result
  obtain ⟨⟨pass, isPass⟩, rest⟩ := result
  refine ⟨?accepts, by decide +kernel, ⟨pass, ?ended⟩, rest⟩
  case accepts => exact (comesTo ⟨1⟩ 0 _ rfl).mpr ⟨1, Nat.le_refl 1, rfl, by decide⟩
  case ended =>
    rw [here, ← isPass]
    exact ended.symm

end Run
end TokenKeeper
