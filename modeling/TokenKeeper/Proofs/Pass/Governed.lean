import TokenKeeper.Proofs.Machine.Threads
import TokenKeeper.Proofs.Pass.Connection
import TokenKeeper.Proofs.Pass.Workers

/-!
# Workers under their conduct

The exchanges of a worker and of its members are governed by the conduct of its connection. Then
what the worker has been told, also by its members, is what the conduct says, so it comes to the
outcome of the conduct. The task of the pass itself only looks, starts workers and waits for them,
and it ends with a pass whatever they do.
-/

namespace TokenKeeper

open Engine (opening finding)

variable {e : Engine}

/-- The exchanges of a worker and of its members are as the conduct says. -/
structure Conduct.Governs (c : Conduct) (d : Deed) : Prop where
  servers : ∀ connection a, d.exchange = ⟨.endpoints connection, a⟩ → a = c.servers
  connected : ∀ endpoint a, d.exchange = ⟨.isConnected endpoint, a⟩ →
    a = c.connected (asked Request.isLook d.past)
  replies : ∀ (j k : Nat) job endpoint username secret a, d.member = some (j, job) →
    c.places[j]? = some k → d.exchange = ⟨.auth endpoint username secret, a⟩ →
      a = c.replies k (asked Request.isAuth d.past)

/-- Whether an exchange is as the conduct says. -/
def Conduct.governs (c : Conduct) (d : Deed) : Bool :=
  match d.exchange, d.member with
  | ⟨.endpoints _, a⟩, _ => a = c.servers
  | ⟨.isConnected _, a⟩, _ => a = c.connected (asked Request.isLook d.past)
  | ⟨.auth _ _ _, a⟩, some (j, _) =>
    c.places[j]?.all fun k => a = c.replies k (asked Request.isAuth d.past)
  | _, _ => true

theorem Conduct.governs_iff {c : Conduct} {d : Deed} : c.governs d = true ↔ c.Governs d := by
  obtain ⟨thread, duty, member, past, request, a⟩ := d
  constructor
  · intro h
    refine ⟨?_, ?_, ?_⟩
    · rintro connection a ⟨⟩
      exact of_decide_eq_true h
    · rintro endpoint a ⟨⟩
      exact of_decide_eq_true h
    · rintro j k job endpoint username secret a ⟨⟩ place ⟨⟩
      simp only [governs, place, Option.all_some] at h
      exact of_decide_eq_true h
  · rintro ⟨servers, connected, replies⟩
    cases request with
    | endpoints connection => exact decide_eq_true (servers connection a rfl)
    | isConnected endpoint => exact decide_eq_true (connected endpoint a rfl)
    | auth endpoint username secret =>
        cases member with
        | none => rfl
        | some place =>
            obtain ⟨j, job⟩ := place
            cases at_ : c.places[j]? with
            | none => simp only [governs, at_, Option.all_none]
            | some k =>
                simp only [governs, at_, Option.all_some]
                exact decide_eq_true (replies j k job endpoint username secret a rfl at_ rfl)
    | _ => rfl

instance (c : Conduct) (d : Deed) : Decidable (c.Governs d) :=
  decidable_of_iff _ Conduct.governs_iff

/-- A member that has ended has ended as its endpoint conducts itself. -/
theorem Conduct.reply_of_told {c : Conduct} {P : Deed → Prop} {thread : Nat} {duty : Duty}
    {j k : Nat} {job : EndpointJob} {retries : Nat} {past : List Exchange}
    {rest : Program AuthReply} {r : Except Panic AuthReply}
    (governed : ∀ d, P d → d.thread = thread → d.duty = duty → c.Governs d)
    (place : c.places[j]? = some k)
    (reached : (Engine.serveEndpoint job retries).Reaches past rest)
    (told : Told P thread duty (some (j, job)) past) (ended : rest.ended? = some r) :
    c.reply retries k = r := by
  refine ((Engine.serveEndpoint_meets (c.replies k) job retries []).ended reached ended
    fun earlier x later cut => ?_).symm
  intro endpoint username secret a same
  have deed := governed _ (told earlier x later cut) rfl rfl
  exact deed.replies j k job endpoint username secret a rfl place same

/-- What a worker has been told agrees with the conduct. -/
theorem Thread.Kept.explains {P : Deed → Prop} {i : Nat} {t : Thread e} {c : Conduct}
    (kept : t.Kept P i) (governed : ∀ d, P d → d.thread = i → d.duty = t.duty → c.Governs d)
    {earlier later : List Exchange} {x : Exchange} (cut : t.past = earlier ++ x :: later) :
    c.Explains e.policy.immediateRetries earlier x := by
  have deed := governed _ (kept.own earlier x later cut) rfl rfl
  have inside : x ∈ t.past := by
    rw [cut]
    exact List.mem_append_right _ List.mem_cons_self
  refine ⟨deed.servers, deed.connected, ?replies, ?panic⟩
  case replies =>
    rintro jobs l rfl
    obtain ⟨length, each⟩ := kept.gathered jobs (.ok l) inside
    refine ⟨length, fun j k reply place replied => ?_⟩
    have low : j < jobs.length := length ▸ (List.getElem?_eq_some_iff.mp replied).1
    obtain ⟨past, reached, told⟩ := each j _ reply (List.getElem?_eq_getElem low) replied
    exact Conduct.reply_of_told governed place reached told rfl
  case panic =>
    rintro jobs p rfl
    obtain ⟨j, job, past, isJob, reached, told⟩ := kept.gathered jobs (.error p) inside
    refine ⟨j, (List.getElem?_eq_some_iff.mp isJob).1, fun k place => ?_⟩
    exact Conduct.reply_of_told governed place reached told rfl

/-- The call of a pass ends with a pass, and not with a panic. -/
theorem Call.reauthenticate_meets : (Call.reauthenticate.program e).Meets (fun _ _ => True)
    (Engine.PassAsks []) (fun past r =>
      ∃ pass, r = .ok (.pass pass) ∧ Engine.PassEnds [] past (.ok pass)) [] := by
  refine Program.Meets.bind ((Engine.reauthenticateAll_meets []).mono
    (fun _ _ allowed => allowed) ?_)
  intro past r ended
  obtain ⟨pass, rfl⟩ := ended.1
  exact ⟨pass, rfl, ended⟩

/-- Wherever it is, the call keeps to what a pass may ask. -/
theorem Call.reauthenticate_asks {past : List Exchange} {q : Request}
    {resume : q.Answer → Program Output}
    (reached : (Call.reauthenticate.program e).Reaches past (.ask q resume)) :
    Engine.PassAsks [] past q := by
  have met : (Call.reauthenticate.program e).Meets _ _ _ [] := Call.reauthenticate_meets
  exact (met.reaches reached fun _ _ _ _ => trivial).1

theorem Deed.pass_asks {d : Deed} (sound : d.Sound e) (own : d.member = none)
    (duty : d.duty = .call .reauthenticate) :
    Engine.PassAsks [] d.past d.exchange.request := by
  obtain ⟨resume, reached⟩ := sound.reaches own
  rw [duty] at reached
  exact Call.reauthenticate_asks (e := e) reached

/-- The task of a pass has ended as the contract says. -/
theorem Thread.pass_ended {t : Thread e} {r : Except Panic Output}
    (call : t.duty = .call .reauthenticate) (ended : t.rest.ended? = some r) :
    ∃ pass, r = .ok (.pass pass) ∧ Engine.PassEnds [] t.past (.ok pass) := by
  have reached := t.sound
  rw [call] at reached
  have contract : (Call.reauthenticate.program e).Meets _ _ _ [] := Call.reauthenticate_meets
  exact contract.ended reached ended fun _ _ _ _ => trivial

/-- How the task of a worker ends. -/
def Conduct.WorkerEnds (c : Conduct) (retries : Nat) (job : ConnectionJob)
    (past : List Exchange) : Except Panic Output → Prop
  | .error _ => c.Panics retries
  | .ok output => ∃ o, output = .outcome o ∧ c.Concludes retries job past (.ok o)

theorem ConnectionJob.program_meets (c : Conduct) (retries : Nat) (job : ConnectionJob) :
    job.program.Meets (c.Explains retries) (c.Records retries job)
      (c.WorkerEnds retries job) [] := by
  refine Program.Meets.bind ((Engine.serveConnection_meets c retries job).mono
    (fun _ _ allowed => allowed) ?_)
  intro past r ended
  cases r with
  | error p => exact ended
  | ok o => exact ⟨o, rfl, ended⟩

/-- A deed of a pass: of its own task, or of a worker that was started for it. -/
def Deed.InPass (pass : Nat) (d : Deed) : Prop :=
  d.thread = pass ∨ pass < d.thread ∧ ∃ job, d.duty = .worker pass job

/-- Whether a deed belongs to a pass. -/
def Deed.inPass (pass : Nat) (d : Deed) : Bool :=
  d.thread = pass || pass < d.thread && match d.duty with
    | .worker of _ => of = pass
    | _ => false

theorem Deed.inPass_iff {pass : Nat} {d : Deed} : d.inPass pass = true ↔ d.InPass pass := by
  obtain ⟨thread, duty, member, past, exchange⟩ := d
  cases duty with
  | call c => simp [inPass, InPass]
  | worker of job => simp [inPass, InPass]

/-- Whether the workers of a pass are treated as the conducts say. -/
def Deed.governedIn (pass : Nat) (conduct : ConnectionId → Conduct) (d : Deed) : Bool :=
  match d.duty with
  | .worker of job => of != pass || (conduct job.id).governs d
  | _ => true

theorem Deed.governs_of_governedIn {pass : Nat} {conduct : ConnectionId → Conduct} {d : Deed}
    {job : ConnectionJob} (check : d.governedIn pass conduct = true)
    (duty : d.duty = .worker pass job) : (conduct job.id).Governs d := by
  rw [governedIn, duty] at check
  simpa [Conduct.governs_iff] using check

end TokenKeeper
