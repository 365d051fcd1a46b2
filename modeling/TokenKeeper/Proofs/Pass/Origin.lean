import TokenKeeper.Proofs.Connection.Established
import TokenKeeper.Proofs.Pass.Connection
import TokenKeeper.Proofs.Pass.Workers

/-!
# What stands behind a mark

Only the worker of a pass marks a connection, and only after every listed endpoint has either
been passed over because it was not connected, or has been served with the token of the pass and
was served well. The worker has its token from a look that its pass took at the store, and its
connection from what the pass then found in the registry. The contracts below say this of the
programs, for all answers that these may get.
-/

namespace TokenKeeper

open Engine (finding)

variable {e : Engine}

/-- The requests by which a token is acquired. -/
def Request.IsAcquiring : Request → Prop
  | .now | .sleep _ | .currentToken | .username | .setUsernameIfAbsent _ | .offer _ | .getToken _
  | .backoff _ _ | .notify _ => True
  | _ => False

/-- The requests by which the identity service is asked for a token. -/
def Request.IsAttempting : Request → Prop
  | .sleep _ | .getToken _ | .backoff _ _ => True
  | _ => False

theorem Request.IsAttempting.isAcquiring {q : Request} (h : q.IsAttempting) : q.IsAcquiring := by
  cases q with
  | sleep => trivial
  | getToken => trivial
  | backoff => trivial
  | _ => exact h.elim

namespace Engine

open Program (uses_pure uses_ofAnswer)

theorem attempt_uses (number : Nat) : (e.attempt number).Uses Request.IsAttempting := by
  refine ⟨trivial, fun a => ?_⟩
  cases a <;> trivial

theorem attempts_uses (left number : Nat) : (e.attempts left number).Uses Request.IsAttempting := by
  induction left generalizing number with
  | zero =>
      rw [attempts]
      apply (attempt_uses number).bind
      intro r
      cases r <;> trivial
  | succ left ih =>
      rw [attempts]
      apply (attempt_uses number).bind
      intro r
      cases r with
      | ok t => trivial
      | error error =>
          refine ⟨trivial, fun a => ?_⟩
          apply (uses_ofAnswer a).bind
          intro delay
          exact ⟨trivial, fun _ => ih (number + 1)⟩

theorem offer_uses (t : AccessToken) : (offer t).Uses Request.IsAcquiring := by
  refine ⟨trivial, fun now => ⟨trivial, fun taken => ?_⟩⟩
  cases taken with
  | true => exact ⟨trivial, fun _ => trivial⟩
  | false => trivial

theorem install_uses (t : AccessToken) (reportFailure : Bool) :
    (e.install t reportFailure).Uses Request.IsAcquiring := by
  refine ⟨trivial, fun known => ?_⟩
  cases known with
  | some name => exact (offer_uses t).bind fun _ => uses_pure _
  | none =>
      simp only [Program.bind_eq, Program.pure_eq]
      split
      · exact ⟨trivial, fun _ => (offer_uses t).bind fun _ => uses_pure _⟩
      · trivial

theorem acquire_uses (reportFailure : Bool) :
    (e.acquire reportFailure).Uses Request.IsAcquiring := by
  apply ((attempts_uses _ _).mono fun _ => Request.IsAttempting.isAcquiring).bind
  intro r
  cases r with
  | ok t => exact install_uses t reportFailure
  | error error => exact ⟨trivial, fun _ => ⟨trivial, fun _ => trivial⟩⟩

theorem refreshIsDue_uses {allowed : Request → Prop} (current : allowed .currentToken)
    (now : allowed .now) : e.refreshIsDue.Uses allowed := by
  refine ⟨current, fun found => ?_⟩
  cases found with
  | none => trivial
  | some t =>
      refine ⟨now, fun first => ?_⟩
      show (if t.isExpiredAt first then _ else if t.lifetime ≤ 0 then _ else _ : Program _).Uses _
      split
      · trivial
      · split
        · trivial
        · exact ⟨now, fun _ => uses_ofAnswer _⟩

end Engine

/-- What a call may ask. Marks and the serving of endpoints are left to workers, and a worker
gets a token that the call has seen and a connection that it has found with that token. -/
def CallAsks (past : List Exchange) : Request → Prop
  | .mark _ _ | .together _ => False
  | .spawnWorker job => (⟨.currentToken, some job.token⟩ : Exchange) ∈ past ∧
      ∃ found, finding job.token found ∈ past ∧
        ∃ x ∈ found, x.id = job.id ∧ x.connection = job.connection
  | _ => True

theorem Request.IsAcquiring.callAsks (past : List Exchange) (q : Request) (h : q.IsAcquiring) :
    CallAsks past q := by
  cases q <;> trivial

namespace Engine

open Program (Heeds)

theorem reauthenticateAll_heeds : reauthenticateAll.Heeds CallAsks := by
  intro before
  apply (reauthenticateAll_meets before).mono
  · intro past q allowed
    cases q with
    | spawnWorker job =>
        obtain ⟨found, later, x, inside, isJob, rfl⟩ := allowed
        refine ⟨by simp [opening], found, by simp, x, inside, ?_, ?_⟩
        · rw [isJob]
          rfl
        · rw [isJob]
          rfl
    | mark => exact allowed
    | together => exact allowed
    | _ => trivial
  · exact fun _ _ _ => trivial

theorem acquire_heeds (reportFailure : Bool) : (e.acquire reportFailure).Heeds CallAsks :=
  (acquire_uses reportFailure).heeds Request.IsAcquiring.callAsks

end Engine

/-- The requests of calls outside of acquisitions and passes. -/
def Request.IsPlain : Request → Prop
  | .now | .currentToken | .username | .track _ _ | .untrack _ | .tryEnter | .leave | .gateIsBusy
  | .spawnCheck | .shutDown => True
  | q => q.IsHeartbeat

theorem Request.IsHeartbeat.isPlain {q : Request} (h : q.IsHeartbeat) : q.IsPlain := by
  cases q <;> trivial

namespace Engine

open Program (Keeps)

variable {inv : List Exchange → Prop} {asks : List Exchange → Request → Prop}

theorem ensureAuthentication_keeps (plain : ∀ q : Request, q.IsPlain → q.Free inv asks)
    (acquire : (e.acquire false).Keeps inv asks) (pass : reauthenticateAll.Keeps inv asks) :
    e.ensureAuthentication.Keeps inv asks := by
  have uses : e.refreshIsDue.Uses Request.IsPlain := refreshIsDue_uses trivial trivial
  have last : (reauthenticateAll.bind fun _ => Program.pure ()).Keeps inv asks :=
    pass.bind fun _ => .pure _
  have inside : e.checkInside.Keeps inv asks := by
    apply (uses.keeps plain).bind
    intro refresh
    cases refresh with
    | true => exact acquire.bind fun _ => last
    | false => exact last
  refine Keeps.ask (plain _ trivial) fun entered => ?_
  cases entered with
  | true =>
      have leave : (Program.request .leave).Keeps inv asks :=
        .ask (plain _ trivial) fun _ => .pure ()
      exact (inside.thenAlways leave).bind fun _ => .pure _
  | false => exact .pure _

theorem credential_keeps (plain : ∀ q : Request, q.IsPlain → q.Free inv asks) :
    credential.Keeps inv asks := by
  refine Keeps.ask (plain _ trivial) fun current => ?_
  cases current with
  | none => exact .pure _
  | some t =>
      have rest : ((Program.request .username).bind fun username =>
          Program.pure (some (⟨username, t.secret⟩ : Credential))).Keeps inv asks :=
        .ask (plain _ trivial) fun _ => .pure _
      refine Keeps.ask (plain _ trivial) fun now => ?_
      show (if t.isExpiredAt now then _ else _ : Program _).Keeps _ _
      split
      · refine Keeps.ask (plain _ trivial) fun busy => ?_
        cases busy with
        | true => exact rest
        | false => exact .ask (plain _ trivial) fun _ => rest
      · exact rest

end Engine

/-- Every call keeps an invariant that acquisitions and passes keep and that its other requests
leave alone. -/
theorem Call.program_keeps {inv : List Exchange → Prop} {asks : List Exchange → Request → Prop}
    (plain : ∀ q : Request, q.IsPlain → q.Free inv asks)
    (acquire : ∀ reportFailure, (e.acquire reportFailure).Keeps inv asks)
    (pass : Engine.reauthenticateAll.Keeps inv asks) (c : Call) :
    (c.program e).Keeps inv asks := by
  have books : Engine.syncHeartbeat.Keeps inv asks :=
    Engine.syncHeartbeat_uses.keeps fun q heartbeat => plain q heartbeat.isPlain
  have ensure := Engine.ensureAuthentication_keeps plain (acquire false) pass
  cases c with
  | acquire reportFailure => exact (acquire reportFailure).bind fun _ => .pure _
  | reauthenticate => exact pass.bind fun _ => .pure _
  | ensure => exact ensure.bind fun _ => .pure _
  | check =>
      have checked := (ensure.bind fun _ => books).caught
      exact (checked.bind fun _ => .pure ()).bind fun _ => .pure _
  | credential => exact (Engine.credential_keeps plain).bind fun _ => .pure _
  | established c =>
      refine Program.Keeps.bind (.ask (plain _ trivial) fun current => ?_) fun _ => .pure _
      refine .ask (plain _ trivial) fun id => ?_
      exact books.bind fun _ => .pure _
  | stop id =>
      refine Program.Keeps.bind (.ask (plain _ trivial) fun removed => ?_) fun _ => .pure _
      exact books.bind fun _ => .pure _
  | shutDown =>
      refine Program.Keeps.bind (.ask (plain _ trivial) fun _ => ?_) fun _ => .pure _
      exact books

/-- Every call keeps to what acquisitions and passes keep to, if its other requests are free. -/
theorem Call.heeds {asks : List Exchange → Request → Prop}
    (plain : ∀ past q, q.IsPlain → asks past q)
    (acquire : ∀ reportFailure, (e.acquire reportFailure).Heeds asks)
    (pass : Engine.reauthenticateAll.Heeds asks) (c : Call) : (c.program e).Heeds asks :=
  Program.heeds_iff_keeps.mpr
    (Call.program_keeps (fun q isPlain past _ => ⟨plain past q isPlain, fun _ => trivial⟩)
      (fun reportFailure => Program.heeds_iff_keeps.mp (acquire reportFailure))
      (Program.heeds_iff_keeps.mp pass) c)

/-- Every call keeps to what calls may ask. -/
theorem Call.program_heeds (c : Call) : (c.program e).Heeds CallAsks := by
  apply Call.heeds _ Engine.acquire_heeds Engine.reauthenticateAll_heeds
  intro past q plain
  cases q with
  | mark => exact plain.elim
  | together => exact plain.elim
  | spawnWorker => exact plain.elim
  | _ => trivial

/-- What a worker may ask. It serves endpoints with the token of its job, and it marks its
connection only after all of them accepted that. -/
def WorkerAsks (job : ConnectionJob) (past : List Exchange) : Request → Prop
  | .endpoints _ | .isConnected _ | .notify _ | .untrack _ => True
  | .together jobs => ∀ j ∈ jobs, j.token = job.token
  | .mark id expiry => id = job.id ∧ expiry = job.token.expiresAt ∧
      ∃ listed jobs replies, (⟨.endpoints job.connection, .ok (.ok listed)⟩ : Exchange) ∈ past ∧
        (⟨.together jobs, .ok replies⟩ : Exchange) ∈ past ∧ (∀ r ∈ replies, r = .ok ()) ∧
        ∀ endpoint ∈ listed, (⟨.isConnected endpoint, .ok false⟩ : Exchange) ∈ past ∨
          ⟨endpoint, job.token, job.username⟩ ∈ jobs
  | _ => False

namespace Engine

open Program (Heeds Meets)

/-- An endpoint that is not among the connected ones has said that it is not connected. -/
theorem connected_passes {asks : List Exchange → Request → Prop}
    (free : ∀ past endpoint, asks past (.isConnected endpoint)) (endpoints : List Endpoint)
    (before : List Exchange) :
    (connected endpoints).Meets (fun _ _ => True) asks (fun past r =>
      ∀ l, r = .ok l → ∀ endpoint ∈ endpoints,
        (⟨.isConnected endpoint, .ok false⟩ : Exchange) ∈ past ∨ endpoint ∈ l) before := by
  induction endpoints generalizing before with
  | nil =>
      intro l _ endpoint inside
      cases inside
  | cons first rest ih =>
      rw [connected]
      refine ⟨free before first, fun a _ => ?_⟩
      cases a with
      | error p =>
          intro l same
          cases same
      | ok here =>
          show ((connected rest).bind fun others =>
            .pure (if here then first :: others else others)).Meets _ asks _ _
          apply Meets.bind
          apply (ih _).extends.mono (fun _ _ allowed => allowed)
          intro past r ended
          cases r with
          | error p =>
              intro l same
              cases same
          | ok others =>
              obtain ⟨further, each⟩ := ended
              rintro l ⟨⟩ endpoint inside
              cases here with
              | true =>
                  rcases List.mem_cons.mp inside with rfl | later
                  · exact .inr List.mem_cons_self
                  · exact (each others rfl endpoint later).imp_right (List.mem_cons_of_mem _)
              | false =>
                  rcases List.mem_cons.mp inside with rfl | later
                  · exact .inl (further.subset (by simp))
                  · exact each others rfl endpoint later

theorem serveConnection_heeds (job : ConnectionJob) :
    (serveConnection job).Heeds (WorkerAsks job) := by
  intro before
  rw [serveConnection]
  refine ⟨trivial, fun a _ => ?_⟩
  cases a with
  | error p => trivial
  | ok answer =>
      cases answer with
      | error error => cases error <;> exact ⟨trivial, fun _ _ => trivial⟩
      | ok listed =>
          show ((connected listed).bind fun l =>
            (Program.request (.together (l.map fun e => ⟨e, job.token, job.username⟩))).bind
              fun r => (Program.ofAnswer r).bind (record job)).Meets _ _ _ _
          apply Meets.bind
          apply (connected_passes (fun _ _ => trivial) listed _).extends.mono
            (fun _ _ allowed => allowed)
          intro past r ended
          cases r with
          | error p => trivial
          | ok l =>
              obtain ⟨further, each⟩ := ended
              refine ⟨?together, fun r _ => ?_⟩
              case together =>
                intro j inside
                obtain ⟨endpoint, _, rfl⟩ := List.mem_map.mp inside
                rfl
              cases r with
              | error p => trivial
              | ok replies =>
                  show (record job replies).Meets _ _ _ _
                  unfold record
                  split
                  · exact ⟨trivial, fun _ _ => trivial⟩
                  · split
                    · rename_i all
                      refine ⟨⟨rfl, rfl, listed, _, replies, ?_, List.mem_append_right _
                        List.mem_cons_self, ?_, ?_⟩, fun _ _ => trivial⟩
                      · exact List.mem_append_left _ (further.subset (by simp))
                      · intro r inside
                        have good := List.all_eq_true.mp all r inside
                        unfold isAccepted at good
                        split at good
                        · rfl
                        · cases good
                      · intro endpoint inside
                        refine (each l rfl endpoint inside).imp (List.mem_append_left _) ?_
                        exact fun here => List.mem_map.mpr ⟨endpoint, here, rfl⟩
                    · trivial

end Engine

theorem ConnectionJob.program_heeds (job : ConnectionJob) :
    job.program.Heeds (WorkerAsks job) :=
  (Engine.serveConnection_heeds job).bind fun _ => .pure _

namespace Deed

variable {d : Deed}

/-- A deed of a task itself is one that its kind of task may do. -/
theorem Sound.asks (sound : d.Sound e) (own : d.member = none) :
    match d.duty with
    | .call _ => CallAsks d.past d.exchange.request
    | .worker _ job => WorkerAsks job d.past d.exchange.request := by
  obtain ⟨resume, reached⟩ := sound.reaches own
  split
  · rename_i c duty
    rw [duty] at reached
    exact (Call.program_heeds c).reaches reached
  · rename_i pass job duty
    rw [duty] at reached
    exact (ConnectionJob.program_heeds job).reaches reached

/-- Only a call starts a worker, with a token that it has seen and a connection that it has
found. -/
theorem Sound.asks_of_spawn {job : ConnectionJob} (sound : d.Sound e)
    (spawns : d.exchange.request = .spawnWorker job) : CallAsks d.past (.spawnWorker job) := by
  have own := Deed.member_eq_none sound (by rw [spawns]; rfl)
  have asks := sound.asks own
  rw [spawns] at asks
  split at asks
  · exact asks
  · exact asks.elim

/-- Only a worker makes a mark. -/
theorem Sound.asks_of_mark {id : ConnectionId} {expiry : Instant} (sound : d.Sound e)
    (marks : d.exchange.request = .mark id expiry) :
    ∃ pass job, d.duty = .worker pass job ∧ WorkerAsks job d.past (.mark id expiry) := by
  have own := Deed.member_eq_none sound (by rw [marks]; rfl)
  have asks := sound.asks own
  rw [marks] at asks
  split at asks
  · exact asks.elim
  · rename_i pass job duty
    exact ⟨pass, job, duty, asks⟩

end Deed

end TokenKeeper
