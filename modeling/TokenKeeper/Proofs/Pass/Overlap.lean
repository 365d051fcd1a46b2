import TokenKeeper.Proofs.Connection.Tags
import TokenKeeper.Proofs.Machine.Play
import TokenKeeper.Proofs.Machine.Threads
import TokenKeeper.Proofs.Pass.Origin

/-!
# Passes that overlap

Any number of passes may run at a time, each with the token that was current when it looked. A
tag never moves back, but what an endpoint holds does: the pass with the older token may send its
command last. Then the tag is ahead of the endpoint, the connection is not stale any more, and no
further pass repairs it. It is ahead also of an endpoint that was signed in before its connection
was tracked anew, since tracking goes by the token of the store. `Run.tag_le_iff` says that these
are the only ways.
-/

namespace TokenKeeper

variable {e : Engine} {m m' : Machine e} {trace : List Label} {endpoint : Endpoint}
variable {token held : Token} {x : Tracked}

/-- The token with which an endpoint accepted a command. -/
def Deed.accepted? (endpoint : Endpoint) (d : Deed) : Option Token :=
  match d.exchange, d.member with
  | ⟨.auth target _ _, .ok (.ok ())⟩, some (_, job) =>
    if target = endpoint then some job.token else none
  | _, _ => none

/-- The task of the pass that a worker belongs to. -/
def Deed.pass? (d : Deed) : Option Nat :=
  match d.duty with
  | .worker pass _ => some pass
  | .call _ => none

/-- An endpoint stays listed and connected. -/
structure Steady (c : Connection) (endpoint : Endpoint) (x : Exchange) : Prop where
  listed : ∀ l, x = ⟨.endpoints c, .ok (.ok l)⟩ → endpoint ∈ l
  connected : ∀ a, x = ⟨.isConnected endpoint, a⟩ → a = .ok true

/-- The secret that an accepted command carried is the one of its token. -/
theorem Step.secret_of_accepted {d : Deed} (step : Step m (.did d) m')
    (accepted : d.accepted? endpoint = some token) :
    ∃ username, d.exchange = ⟨.auth endpoint username token.secret, .ok (.ok ())⟩ := by
  have sound := step.sound
  obtain ⟨thread, duty, member, past, exchange⟩ := d
  unfold Deed.accepted? at accepted
  split at accepted
  · rename_i target username secret j job same isMember
    dsimp only at same isMember
    subst same isMember
    obtain ⟨resume, reached⟩ := sound
    have asks := ((Engine.serveEndpoint_accepted job _ []).reaches reached
      fun _ _ _ _ => trivial).1
    split at accepted
    · rename_i here
      obtain rfl := Option.some.inj accepted
      exact ⟨username, by rw [← here, ← asks.2.2]⟩
    · cases accepted
  · cases accepted

/-- Endpoints are served by workers, with the token of their job. -/
theorem Step.worker_of_accepted {d : Deed} (step : Step m (.did d) m')
    (accepted : d.accepted? endpoint = some token) :
    ∃ pass job, d.duty = .worker pass job ∧ job.token = token := by
  obtain ⟨j, job, member, same⟩ : ∃ j job, d.member = some (j, job) ∧ job.token = token := by
    unfold Deed.accepted? at accepted
    split at accepted
    · rename_i target username secret j job _ isMember
      split at accepted
      · exact ⟨j, job, isMember, Option.some.inj accepted⟩
      · cases accepted
    · cases accepted
  obtain ⟨past, jobs, resume, reached, inside⟩ := step.crew member
  cases duty : d.duty with
  | call c =>
      rw [duty] at reached
      exact ((Call.program_heeds c).reaches reached).elim
  | worker pass work =>
      rw [duty] at reached
      have tokens : ∀ j ∈ jobs, j.token = work.token :=
        work.program_heeds.reaches reached
      exact ⟨pass, work, rfl, (tokens job inside).symm.trans same⟩

namespace Run

/-- Behind a worker stands the call of its pass. It has started the worker, with a token that it has
seen in the store and for a connection that it has found in the registry with that token. -/
theorem employer {i pass : Nat} {t : Thread e} {job : ConnectionJob} (run : Run {} trace m)
    (here : m.threads[i]? = some t) (duty : t.duty = .worker pass job) :
    ∃ t' c, m.threads[pass]? = some t' ∧ t'.duty = .call c ∧
      ⟨.spawnWorker job, ⟨i⟩⟩ ∈ t'.past ∧ ⟨.currentToken, some job.token⟩ ∈ t'.past ∧
        ∃ found, Engine.finding job.token found ∈ t'.past ∧
          ∃ y ∈ found, y.id = job.id ∧ y.connection = job.connection := by
  obtain ⟨duty', member, past, spawned⟩ := (run.history (Nat.zero_le i) here).origin _ _ duty
  have sound := run.sound spawned
  have own := Deed.member_eq_none sound rfl
  obtain ⟨saw, found, finds, known⟩ := sound.asks_of_spawn rfl
  obtain ⟨t', later, there, same, cut⟩ := run.recorded spawned own
  have told {x : Exchange} (seen : x ∈ past) : x ∈ t'.past := by
    rw [cut]
    exact List.mem_append_left _ seen
  have started : ⟨.spawnWorker job, ⟨i⟩⟩ ∈ t'.past := by
    rw [cut]
    simp
  cases duty' with
  | call c => exact ⟨t', c, there, same, started, told saw, found, told finds, known⟩
  | worker pass' work => exact (sound.asks own).elim

/-- Behind a worker stand the look of its pass at the store and, with the token that was seen
there, the look at the registry that found its connection. -/
theorem worker_origin {i pass : Nat} {t : Thread e} {job : ConnectionJob} (run : Run {} trace m)
    (here : m.threads[i]? = some t) (duty : t.duty = .worker pass job) :
    (∃ look, .did look ∈ trace ∧ look.thread = pass ∧
      look.exchange = ⟨.currentToken, some job.token⟩) ∧
    ∃ find found, .did find ∈ trace ∧ find.exchange = Engine.finding job.token found ∧
      ∃ y ∈ found, y.id = job.id ∧ y.connection = job.connection := by
  obtain ⟨t', _, there, _, _, saw, found, finds, known⟩ := run.employer here duty
  obtain ⟨_, look⟩ := run.deed_of_past (Nat.zero_le pass) there saw
  obtain ⟨_, find⟩ := run.deed_of_past (Nat.zero_le pass) there finds
  exact ⟨⟨_, look, rfl, rfl⟩, _, found, find, rfl, known⟩

/-- The number of a worker's job has been given out, and stays with the connection of the job. -/
theorem job_known {i pass : Nat} {t : Thread e} {job : ConnectionJob} {later : List Label}
    (run : Run {} trace m) (here : m.threads[i]? = some t) (duty : t.duty = .worker pass job)
    (rest : Run m later m') :
    job.id.number < m.shared.registry.nextId ∧
      ∀ x ∈ m'.shared.registry.entries, x.id = job.id → x.connection = job.connection := by
  obtain ⟨_, find, found, happened, finds, y, inside, number, connection⟩ :=
    run.worker_origin here duty
  obtain ⟨first, more, rfl⟩ := List.append_of_mem happened
  obtain ⟨before, after, start, step, onward⟩ := run.cut
  have ordered := step.ordered (start.ordered Registry.Ordered.empty)
  have entry : y ∈ after.shared.registry.entries := by
    have answered : found = (before.shared.registry.stale before.alive job.token.expiresAt).2 :=
      step.answer finds rfl
    rw [answered] at inside
    rw [step.shared, finds]
    exact (List.mem_filter.mp inside).1
  have low : job.id.number < after.shared.registry.nextId := number ▸ ordered.below y entry
  refine ⟨Nat.lt_of_lt_of_le low onward.nextId_le, ?_⟩
  intro x last same
  obtain ⟨z, earlier, becomes⟩ := (onward.trans rest).entry last (same ▸ low)
  obtain rfl := ordered.eq_of_id earlier entry
    (becomes.id.symm.trans (same.trans number.symm))
  exact becomes.connection.trans connection

/-- A tag is no earlier than what was marked for its number. -/
theorem le_tag_of_marked {mark : Deed} {expiry : Instant} (run : Run {} trace m)
    (entry : x ∈ m.shared.registry.entries) (happened : .did mark ∈ trace)
    (marks : mark.exchange.request = .mark x.id expiry) : expiry ≤ x.tag := by
  obtain ⟨first, more, rfl⟩ := List.append_of_mem happened
  obtain ⟨before, after, start, step, onward⟩ := run.cut
  obtain ⟨pass, job, duty, isJob, _⟩ := step.sound.asks_of_mark marks
  obtain ⟨t, here, same, _⟩ := step.actor
  obtain ⟨low, _⟩ := start.job_known here (same.trans duty) (.refl before)
  have old : x.id.number < after.shared.registry.nextId := by
    rw [isJob]
    exact Nat.lt_of_lt_of_le low step.nextId_le
  obtain ⟨y, there, becomes⟩ := onward.entry entry old
  rw [step.shared, marks] at there
  have reached := Registry.le_tag_of_mark there becomes.id.symm
  exact Instant.le_trans reached becomes.tag

/-- Before a connection was marked, its steady endpoints accepted the token of the mark. -/
theorem accepted_of_marked {mark : Deed} {expiry : Instant} (run : Run {} trace m)
    (entry : x ∈ m.shared.registry.entries)
    (steady : ∀ d, .did d ∈ trace → Steady x.connection endpoint d.exchange)
    (happened : .did mark ∈ trace) (marks : mark.exchange.request = .mark x.id expiry) :
    ∃ d token, .did d ∈ trace ∧ d.thread = mark.thread ∧
      d.accepted? endpoint = some token ∧ token.expiresAt = expiry := by
  have sound := run.sound happened
  obtain ⟨pass, job, duty, isJob, isExpiry, listed, jobs, replies, lists, gathers, good, served⟩ :=
    sound.asks_of_mark marks
  obtain ⟨t, later, here, same, cut⟩ :=
    run.recorded happened (Deed.member_eq_none sound (by rw [marks]; rfl))
  obtain ⟨_, connection⟩ := run.job_known here (same.trans duty) (.refl m)
  have kept := run.history (Nat.zero_le _) here
  have seen {y : Exchange} (inside : y ∈ mark.past) : Steady x.connection endpoint y := by
    have before : y ∈ t.past := by
      rw [cut]
      exact List.mem_append_left _ inside
    obtain ⟨_, deed⟩ := run.deed_of_past (Nat.zero_le _) here before
    exact steady _ deed
  have inside : endpoint ∈ listed := by
    apply (seen lists).listed
    rw [connection x entry isJob]
  have working : (⟨endpoint, job.token, job.username⟩ : EndpointJob) ∈ jobs := by
    rcases served endpoint inside with passed | working
    · have impossible := (seen passed).connected _ rfl
      cases impossible
    · exact working
  have together : (⟨.together jobs, .ok replies⟩ : Exchange) ∈ t.past := by
    rw [cut]
    exact List.mem_append_left _ gathers
  obtain ⟨length, each⟩ := kept.gathered _ _ together
  obtain ⟨j, low, isMember⟩ := List.getElem_of_mem working
  have replied : replies[j]? = some (.ok ()) := by
    rw [List.getElem?_eq_getElem (length ▸ low)]
    exact congrArg some (good _ (List.getElem_mem _))
  obtain ⟨past, reached, told⟩ := each j _ _ (isMember ▸ List.getElem?_eq_getElem low) replied
  have sent := (Engine.serveEndpoint_accepted _ _ []).reaches reached (fun _ _ _ _ => trivial) rfl
  obtain ⟨_, _, _, deed⟩ := told.of_mem sent
  exact ⟨_, job.token, deed, rfl, if_pos rfl, isExpiry.symm⟩

/-- The pass of an accepted command has seen the token of the command in the store. -/
theorem look_of_accepted {d : Deed} (run : Run {} trace m) (happened : .did d ∈ trace)
    (accepted : d.accepted? endpoint = some token) :
    ∃ look, .did look ∈ trace ∧ d.pass? = some look.thread ∧
      look.exchange = ⟨.currentToken, some token⟩ := by
  obtain ⟨first, more, rfl⟩ := List.append_of_mem happened
  obtain ⟨before, after, start, step, _⟩ := run.cut
  obtain ⟨pass, job, duty, rfl⟩ := step.worker_of_accepted accepted
  obtain ⟨t, here, same, _⟩ := step.actor
  obtain ⟨⟨look, inside, number, seen⟩, _⟩ := start.worker_origin here (same.trans duty)
  refine ⟨look, List.mem_append_left _ inside, ?_, seen⟩
  rw [Deed.pass?, duty, number]

end Run

/-- The last command straggles behind an earlier one: it carries an older token, since its pass
looked at the store before the pass of the earlier one did, which has marked the connection. -/
structure Straggles (trace : List Label) (endpoint : Endpoint) (id : ConnectionId) (last : Deed)
    (held : Token) (d : Deed) (token : Token) : Prop where
  accepted : d.accepted? endpoint = some token
  older : held.expiresAt < token.expiresAt
  marked : ∃ mark, .did mark ∈ trace ∧ mark.thread = d.thread ∧
    mark.exchange.request = .mark id token.expiresAt
  looked : ∃ first look between look' rest,
    trace = first ++ .did look :: between ++ .did look' :: rest ∧
      last.pass? = some look.thread ∧ look.exchange = ⟨.currentToken, some held⟩ ∧
      d.pass? = some look'.thread ∧ look'.exchange = ⟨.currentToken, some token⟩

/-- The last command that an endpoint accepted has brought it the secret of the token it holds. The
tag of its connection is not ahead of that token, provided that the connection was not tracked with
a later expiry, and that the command does not straggle behind the one of a newer pass; and only
then. -/
theorem Run.tag_le_iff {earlier later : List Label} {last : Deed} (run : Run {} trace m)
    (entry : x ∈ m.shared.registry.entries)
    (steady : ∀ d, .did d ∈ trace → Steady x.connection endpoint d.exchange)
    (cut : trace = earlier ++ .did last :: later)
    (accepted : last.accepted? endpoint = some held)
    (final : ∀ d, .did d ∈ later → d.accepted? endpoint = none) :
    (∃ username, last.exchange = ⟨.auth endpoint username held.secret, .ok (.ok ())⟩) ∧
      (x.tag ≤ held.expiresAt ↔
        (∀ tag, trackedWith? x.id trace = some tag → tag ≤ held.expiresAt) ∧
          ∀ d token, .did d ∈ earlier → ¬ Straggles trace endpoint x.id last held d token) := by
  have lastSent : .did last ∈ trace := by simp [cut]
  refine ⟨?_, ?_⟩
  · obtain ⟨before, after, rfl⟩ := List.append_of_mem lastSent
    obtain ⟨_, _, _, step, _⟩ := run.cut
    exact step.secret_of_accepted accepted
  obtain ⟨tag, tracked, low, origin⟩ := run.tag_origin entry
  constructor
  · intro behind
    constructor
    · intro tag' tracked'
      obtain rfl := Option.some.inj (tracked.symm.trans tracked')
      exact Instant.le_trans low behind
    · intro d token _ straggles
      obtain ⟨mark, happened, _, marks⟩ := straggles.marked
      have reached := run.le_tag_of_marked entry happened marks
      exact Instant.not_le.mpr straggles.older (Instant.le_trans reached behind)
  · rintro ⟨trackedBehind, alone⟩
    by_contra ahead
    have order := Instant.not_le.mp ahead
    rcases origin with same | ⟨mark, happened, marks⟩
    · exact ahead (same ▸ trackedBehind tag tracked)
    · -- The worker of the mark sent the later token, and it did so before the last command.
      obtain ⟨d, token, sent, thread, took, expiry⟩ :=
        run.accepted_of_marked entry steady happened marks
      rw [← expiry] at order marks
      have before : .did d ∈ earlier := by
        rw [cut] at sent
        rcases List.mem_append.mp sent with before | after
        · exact before
        · rcases List.mem_cons.mp after with same | after
          · obtain rfl := Label.did.inj same
            obtain rfl := Option.some.inj (took.symm.trans accepted)
            exact absurd (Instant.le_refl _) (Instant.not_le.mpr order)
          · rw [final d after] at took
            cases took
      obtain ⟨look, inside, number, seen⟩ := run.look_of_accepted lastSent accepted
      obtain ⟨look', inside', number', seen'⟩ := run.look_of_accepted sent took
      obtain ⟨first, between, rest, looks⟩ :=
        run.looks_in_order inside seen inside' seen' order
      apply alone d token before
      exact ⟨took, order, ⟨mark, happened, thread.symm, marks⟩,
        first, look, between, look', rest, looks, number, seen, number', seen'⟩

/-- Whether an exchange leaves an endpoint listed and connected. -/
def Exchange.isSteady (c : Connection) (endpoint : Endpoint) : Exchange → Bool
  | ⟨.endpoints of, .ok (.ok l)⟩ => of != c || l.contains endpoint
  | ⟨.isConnected target, a⟩ => target != endpoint || a = .ok true
  | _ => true

theorem Exchange.steady_of_isSteady {c : Connection} {endpoint : Endpoint} {x : Exchange}
    (h : x.isSteady c endpoint = true) : Steady c endpoint x := by
  constructor
  · rintro l rfl
    simpa [isSteady] using h
  · rintro a rfl
    simpa [isSteady] using h

namespace Run

/-- The one server of the connection. -/
def server : Endpoint := ⟨newcomer, 0, "server"⟩

/-- An outside in which the server is listed, connected and content. -/
def welcoming : (q : Request) → q.Answer
  | .endpoints _ => .ok (.ok [server])
  | .isConnected _ => .ok true
  | q => q.blank

/-- What a worker and its member do, up to the mark. -/
def serves (worker : Nat) : List Move :=
  Move.tells worker 2 welcoming ++
    [.tellMember worker 0 welcoming, .tellMember worker 0 welcoming] ++
    Move.tells worker 2 welcoming

/-- A pass takes the old token and starts its worker. Another token is acquired and another pass
serves the connection with it, and then the first worker goes on. -/
def overlapped : Machine Engine.sample × List Label :=
  ({} : Machine Engine.sample).play
    (.begin (.established newcomer) :: Move.tells 0 8 Request.blank ++
      .begin (.acquire false) :: Move.tells 1 6 (Request.issuing ⟨"old", default⟩) ++
      .begin .reauthenticate :: Move.tells 2 4 Request.blank ++
      .begin (.acquire false) :: Move.tells 4 5 (Request.issuing ⟨"new", .max⟩) ++
      .begin .reauthenticate :: Move.tells 5 4 Request.blank ++
      serves 6 ++ Move.tells 5 1 Request.blank ++
      serves 3 ++ Move.tells 2 1 Request.blank)

/-- The command of the first worker. -/
def lastSent : Deed :=
  ⟨3, .worker 2 ⟨⟨1⟩, newcomer, oldToken, "app"⟩, some (0, ⟨server, oldToken, "app"⟩), [],
    ⟨.auth server "app" "old", .ok (.ok ())⟩⟩

/-- All calls have ended, and the tag is the expiry of the new token while the server has last
accepted the old one. -/
theorem tag_ahead_of_straggler :
    (overlapped.1.threads.all fun t => t.rest.ended?.isSome) = true ∧
    overlapped.1.shared.registry = ⟨[⟨⟨1⟩, newcomer, .max⟩], 2⟩ ∧
    overlapped.1.shared.registry.behind overlapped.1.shared.store.expiry = [] ∧
    lastSent.accepted? server = some oldToken ∧ oldToken.expiresAt < .max ∧
    ∃ d token, .did d ∈ overlapped.2.take 41 ∧
      Straggles overlapped.2 server ⟨1⟩ lastSent oldToken d token := by
  have run : Run {} overlapped.2 overlapped.1 := Machine.play_run _ _
  have tracked : overlapped.1.shared.registry = ⟨[⟨⟨1⟩, newcomer, .max⟩], 2⟩ := by
    decide +kernel
  have cut : overlapped.2 = overlapped.2.take 41 ++ .did lastSent :: overlapped.2.drop 42 := by
    decide +kernel
  have steady : everyDeed (·.exchange.isSteady newcomer server) overlapped.2 = true := by
    decide +kernel
  have final : everyDeed (fun d => (d.accepted? server).isNone) (overlapped.2.drop 42) = true := by
    decide +kernel
  have entry : ⟨⟨1⟩, newcomer, .max⟩ ∈ overlapped.1.shared.registry.entries := by
    rw [tracked]
    exact List.mem_cons_self
  have accepted : lastSent.accepted? server = some oldToken := by decide
  obtain ⟨_, condition⟩ := run.tag_le_iff entry
    (fun d happened => Exchange.steady_of_isSteady (of_everyDeed steady happened)) cut accepted
    (fun d happened => Option.isNone_iff_eq_none.mp (of_everyDeed final happened))
  have ahead : ¬ (.max : Instant) ≤ oldToken.expiresAt := by decide
  have trackedBehind : ∀ tag, trackedWith? ⟨1⟩ overlapped.2 = some tag →
      tag ≤ oldToken.expiresAt := by
    have first : trackedWith? ⟨1⟩ overlapped.2 = some .min := by decide +kernel
    rintro tag same
    obtain rfl := Option.some.inj (first.symm.trans same)
    decide
  refine ⟨by decide +kernel, tracked, by decide +kernel, accepted, by decide, ?_⟩
  by_contra none
  apply ahead
  apply condition.mpr ⟨trackedBehind, ?_⟩
  intro d token before straggles
  exact none ⟨d, token, before, straggles⟩

end Run
end TokenKeeper
