import TokenKeeper.Engine.Call
import TokenKeeper.Proofs.Pass.Origin

/-!
# The requests of each call

What a call may ask at all, whatever it is told. Each call has requests of its own sorts, so much
of what a call cannot do is read off this list.
-/

namespace TokenKeeper

open Program (uses_pure)

variable {e : Engine}

namespace Request

/-- The requests of a pass. -/
def IsPassing : Request → Prop
  | currentToken | username | stale _ | spawnWorker _ | joinWorker _ | notify _ => True
  | _ => False

/-- The requests of a check between entering the gate and leaving it. -/
def IsInside (q : Request) : Prop := q.IsAcquiring ∨ q.IsPassing

end Request

namespace Engine

theorem PassAsks.isPassing {before past : List Exchange} {q : Request}
    (asks : PassAsks before past q) : q.IsPassing := by
  cases q with
  | currentToken => trivial
  | username => trivial
  | stale => trivial
  | spawnWorker => trivial
  | joinWorker => trivial
  | notify => trivial
  | _ => exact asks.elim

theorem reauthenticateAll_uses : reauthenticateAll.Uses Request.IsPassing :=
  (reauthenticateAll_meets []).uses fun _ _ => PassAsks.isPassing

theorem checkInside_uses : e.checkInside.Uses Request.IsInside := by
  have pass : (reauthenticateAll.bind fun _ => Program.pure ()).Uses Request.IsInside :=
    (reauthenticateAll_uses.mono fun _ => .inr).bind fun _ => uses_pure _
  apply (refreshIsDue_uses (.inl trivial) (.inl trivial)).bind
  intro due
  cases due with
  | true => exact ((acquire_uses false).mono fun _ => .inl).bind fun _ => pass
  | false => exact pass

theorem ensureAuthentication_uses {allowed : Request → Prop} (enter : allowed .tryEnter)
    (leave : allowed .leave) (inside : ∀ q, q.IsInside → allowed q) :
    e.ensureAuthentication.Uses allowed := by
  refine ⟨enter, fun entered => ?_⟩
  cases entered with
  | true =>
      have left : (Program.request .leave).Uses allowed := ⟨leave, fun _ => trivial⟩
      exact ((checkInside_uses.mono inside).thenAlways left).bind fun _ => uses_pure _
  | false => trivial

end Engine

namespace Call

/-- What a call may ask. -/
def MayAsk : Call → Request → Prop
  | acquire _, q => q.IsAcquiring
  | reauthenticate, q => q.IsPassing
  | ensure, q => q = .tryEnter ∨ q = .leave ∨ q.IsInside
  | check, q => q = .tryEnter ∨ q = .leave ∨ q.IsInside ∨ q.IsHeartbeat
  | credential, q =>
    q = .currentToken ∨ q = .now ∨ q = .gateIsBusy ∨ q = .spawnCheck ∨ q = .username
  | established c, q => q = .currentToken ∨ (∃ tag, q = .track c tag) ∨ q.IsHeartbeat
  | stop id, q => q = .untrack id ∨ q.IsHeartbeat
  | shutDown, q => q = .shutDown ∨ q.IsHeartbeat

theorem credential_uses : Engine.credential.Uses (MayAsk .credential) := by
  refine ⟨.inl rfl, fun current => ?_⟩
  cases current with
  | none => trivial
  | some t =>
      have rest : ((Program.request .username).bind fun username =>
          Program.pure (some (⟨username, t.secret⟩ : Credential))).Uses (MayAsk .credential) :=
        ⟨by simp [MayAsk], fun _ => trivial⟩
      refine ⟨by simp [MayAsk], fun now => ?_⟩
      show (if t.isExpiredAt now then _ else _ : Program _).Uses _
      split
      · refine ⟨by simp [MayAsk], fun busy => ?_⟩
        cases busy with
        | true => exact rest
        | false => exact ⟨by simp [MayAsk], fun _ => rest⟩
      · exact rest

/-- An acquisition or a pass. -/
def IsPlain : Call → Prop
  | acquire _ | reauthenticate => True
  | _ => False

/-- Every call keeps to its requests. -/
theorem program_uses (c : Call) : (c.program e).Uses c.MayAsk := by
  cases c with
  | acquire reportFailure => exact (Engine.acquire_uses reportFailure).bind fun _ => uses_pure _
  | reauthenticate => exact Engine.reauthenticateAll_uses.bind fun _ => uses_pure _
  | ensure =>
      have check : e.ensureAuthentication.Uses (MayAsk .ensure) :=
        Engine.ensureAuthentication_uses (.inl rfl) (.inr (.inl rfl)) fun _ h => .inr (.inr h)
      exact check.bind fun _ => uses_pure _
  | check =>
      have check : e.ensureAuthentication.Uses (MayAsk .check) :=
        Engine.ensureAuthentication_uses (.inl rfl) (.inr (.inl rfl))
          fun _ h => .inr (.inr (.inl h))
      have books : Engine.syncHeartbeat.Uses (MayAsk .check) :=
        Engine.syncHeartbeat_uses.mono fun _ h => .inr (.inr (.inr h))
      exact ((check.bind fun _ => books).caught.bind fun _ => uses_pure _).bind
        fun _ => uses_pure _
  | credential => exact credential_uses.bind fun _ => uses_pure _
  | established c =>
      have books : Engine.syncHeartbeat.Uses (MayAsk (.established c)) :=
        Engine.syncHeartbeat_uses.mono fun _ h => .inr (.inr h)
      refine ⟨.inl rfl, fun current => ⟨.inr (.inl ⟨_, rfl⟩), fun id => ?_⟩⟩
      exact (books.bind fun _ => uses_pure id).bind fun _ => uses_pure _
  | stop id =>
      have books : Engine.syncHeartbeat.Uses (MayAsk (.stop id)) :=
        Engine.syncHeartbeat_uses.mono fun _ h => .inr h
      refine ⟨.inl rfl, fun removed => ?_⟩
      exact (books.bind fun _ => uses_pure removed).bind fun _ => uses_pure _
  | shutDown =>
      have books : Engine.syncHeartbeat.Uses (MayAsk .shutDown) :=
        Engine.syncHeartbeat_uses.mono fun _ h => .inr h
      exact ⟨.inl rfl, fun _ => books.bind fun _ => uses_pure _⟩

end Call

namespace Request

/-- The requests of a worker. -/
def IsWorking : Request → Prop
  | endpoints _ | isConnected _ | notify _ | untrack _ | together _ | mark _ _ => True
  | _ => False

end Request

theorem ConnectionJob.program_uses (job : ConnectionJob) :
    job.program.Uses Request.IsWorking := by
  apply (job.program_heeds []).uses
  intro past q asks
  cases q with
  | endpoints => trivial
  | isConnected => trivial
  | notify => trivial
  | untrack => trivial
  | together => trivial
  | mark => trivial
  | _ => exact asks.elim

namespace Duty

/-- What a task may ask itself. -/
def MayAsk : Duty → Request → Prop
  | call c => c.MayAsk
  | worker _ _ => Request.IsWorking

theorem program_uses (duty : Duty) : (duty.program e).Uses duty.MayAsk := by
  cases duty with
  | call c => exact c.program_uses
  | worker pass job => exact job.program_uses

end Duty

/-- What a task has asked is what it may ask. -/
theorem Thread.mayAsk {t : Thread e} {x : Exchange} (inside : x ∈ t.past) :
    t.duty.MayAsk x.request :=
  t.duty.program_uses.of_mem t.sound x inside

/-- A task has ended as a contract of its program says. -/
theorem Thread.ends {t : Thread e} {duty : Duty} {asks : List Exchange → Request → Prop}
    {ends : List Exchange → Except Panic Output → Prop} {r : Except Panic Output}
    (same : t.duty = duty) (ended : t.rest.ended? = some r)
    (contract : (duty.program e).Meets (fun _ _ => True) asks ends []) : ends t.past r := by
  subst same
  exact contract.ended t.sound ended fun _ _ _ _ => trivial

theorem Deed.Sound.mayAsk {d : Deed} (sound : d.Sound e) (own : d.member = none) :
    d.duty.MayAsk d.exchange.request := by
  obtain ⟨resume, reached⟩ := sound.reaches own
  exact (d.duty.program_uses.reaches reached).1

/-- What no worker asks is asked as the contract of the calls allows. -/
theorem Deed.Sound.heeds {d : Deed} {asks : List Exchange → Request → Prop} (sound : d.Sound e)
    (own : d.member = none) (calls : ∀ c : Call, (c.program e).Heeds asks)
    (idle : ¬ d.exchange.request.IsWorking) : asks d.past d.exchange.request := by
  have allowed := sound.mayAsk own
  obtain ⟨resume, reached⟩ := sound.reaches own
  cases duty : d.duty with
  | worker pass job =>
      rw [duty] at allowed
      exact absurd allowed idle
  | call c =>
      rw [duty] at reached
      exact (calls c).reaches reached

/-- The deeds of a call are its own. -/
theorem Run.own_of_call {m m' : Machine e} {trace : List Label} {d : Deed} {c : Call}
    (run : Run m trace m') (happened : .did d ∈ trace) (duty : d.duty = .call c) :
    d.member = none := by
  cases member : d.member with
  | none => rfl
  | some place =>
      obtain ⟨earlier, later, rfl⟩ := List.append_of_mem happened
      obtain ⟨_, _, _, step, _⟩ := run.cut
      obtain ⟨past, jobs, resume, reached, _⟩ := step.crew member
      rw [duty] at reached
      exact (c.program_heeds.reaches reached).elim

end TokenKeeper
