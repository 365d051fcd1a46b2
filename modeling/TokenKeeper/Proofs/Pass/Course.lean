import TokenKeeper.Proofs.Call.Requests
import TokenKeeper.Proofs.Pass.Sendings
import TokenKeeper.Proofs.Program.Alone

/-!
# The course of a pass

Which commands are sent in a pass and what the subscribers are told can be read off the exchanges
of its parts, from their beginning to their end. An endpoint gets commands until one is no refusal
or the retries are used up, and at most one event comes of that. A worker learns which endpoints
are connected, serves these, and records what they replied; it tells something itself only if the
endpoints cannot be listed. The task of the pass starts the workers and waits for them in turn, and
it tells of those that panicked.
-/

namespace TokenKeeper

open Program (Meets)

variable {told : List Exchange → Exchange → Prop} {before past : List Exchange}

namespace EndpointJob

variable (job : EndpointJob)

/-- Commands that are refused with these errors. -/
def refusals (errors : List ReauthenticationError) : List Exchange :=
  errors.map fun error => job.command (.ok (.error error))

/-- All exchanges about an endpoint, with what comes of them. -/
inductive Course (retries : Nat) : List Exchange → Except Panic AuthReply → Prop
  | accepted (errors : List ReauthenticationError) (refused : .disposed ∉ errors)
      (few : errors.length ≤ retries) :
      Course retries (job.refusals errors ++ [job.command (.ok (.ok ())),
        ⟨.notify (.connectionReauthenticated job.endpoint.address), ()⟩]) (.ok (.ok ()))
  | closed (errors : List ReauthenticationError) (refused : .disposed ∉ errors)
      (few : errors.length ≤ retries) :
      Course retries (job.refusals errors ++ [job.command (.ok (.error .disposed))])
        (.ok (.error .disposed))
  | failed (errors : List ReauthenticationError) (last : ReauthenticationError)
      (refused : .disposed ∉ errors ++ [last]) (all : errors.length = retries) :
      Course retries (job.refusals (errors ++ [last]) ++
        [⟨.notify (.connectionReauthenticationFailed last job.endpoint.address), ()⟩])
        (.ok (.error last))
  | panicked (errors : List ReauthenticationError) (p : Panic) (refused : .disposed ∉ errors)
      (few : errors.length ≤ retries) :
      Course retries (job.refusals errors ++ [job.command (.error p)]) (.error p)

variable {job}

/-- One more refusal takes one more retry. -/
theorem Course.again {retries : Nat} {r : Except Panic AuthReply} {error : ReauthenticationError}
    (course : job.Course retries past r) (refusal : error ≠ .disposed) :
    job.Course (retries + 1) (job.command (.ok (.error error)) :: past) r := by
  have still {errors : List ReauthenticationError} (refused : .disposed ∉ errors) :
      .disposed ∉ error :: errors := by
    intro inside
    rcases List.mem_cons.mp inside with same | inside
    · exact refusal same.symm
    · exact refused inside
  cases course with
  | accepted errors refused few =>
      exact .accepted (error :: errors) (still refused) (Nat.succ_le_succ few)
  | closed errors refused few =>
      exact .closed (error :: errors) (still refused) (Nat.succ_le_succ few)
  | failed errors last refused all =>
      exact .failed (error :: errors) last (still refused) (congrArg Nat.succ all)
  | panicked errors p refused few =>
      exact .panicked (error :: errors) p (still refused) (Nat.succ_le_succ few)

end EndpointJob

/-- An endpoint says whether it is connected. -/
abbrev look (x : Endpoint × Bool) : Exchange := ⟨.isConnected x.1, .ok x.2⟩

namespace ConnectionJob

variable (job : ConnectionJob)

/-- The connection lists its endpoints, and each says whether it is connected. -/
def listing (looks : List (Endpoint × Bool)) : List Exchange :=
  ⟨.endpoints job.connection, .ok (.ok (looks.map (·.1)))⟩ :: looks.map look

/-- The connected endpoints, as they are to be served. -/
def crew (looks : List (Endpoint × Bool)) : List EndpointJob :=
  (looks.filter (·.2)).map fun x => ⟨x.1, job.token, job.username⟩

/-- What is recorded of the replies, and the outcome. -/
inductive Records (replies : List AuthReply) : List Exchange → ConnectionOutcome → Prop
  | disposed {known : Bool} (closed : replies.any Engine.isDisposed = true) :
      Records replies [⟨.untrack job.id, known⟩] .disposed
  | reauthenticated (open_ : replies.any Engine.isDisposed = false)
      (accepted : replies.all Engine.isAccepted = true) :
      Records replies [⟨.mark job.id job.token.expiresAt, ()⟩] .reauthenticated
  | failed (open_ : replies.any Engine.isDisposed = false)
      (refused : replies.all Engine.isAccepted = false) : Records replies [] .failed

/-- All exchanges of a worker, those of its members apart, with its result. -/
inductive Course : List Exchange → Except Panic ConnectionOutcome → Prop
  | closed (known : Bool) :
      Course [⟨.endpoints job.connection, .ok (.error .disposed)⟩, ⟨.untrack job.id, known⟩]
        (.ok .disposed)
  | failed (error : ReauthenticationError) (open_ : error ≠ .disposed) :
      Course [⟨.endpoints job.connection, .ok (.error error)⟩,
        ⟨.notify (.connectionReauthenticationFailed error job.connection.client), ()⟩] (.ok .failed)
  | unlisted (p : Panic) : Course [⟨.endpoints job.connection, .error p⟩] (.error p)
  | unsure (looks : List (Endpoint × Bool)) (endpoint : Endpoint) (rest : List Endpoint)
      (p : Panic) :
      Course (⟨.endpoints job.connection, .ok (.ok (looks.map (·.1) ++ endpoint :: rest))⟩ ::
        (looks.map look ++ [⟨.isConnected endpoint, .error p⟩])) (.error p)
  | served (looks : List (Endpoint × Bool)) {replies : List AuthReply} {records : List Exchange}
      {outcome : ConnectionOutcome} (recorded : job.Records replies records outcome) :
      Course (job.listing looks ++ ⟨.together (job.crew looks), .ok replies⟩ :: records)
        (.ok outcome)
  | broken (looks : List (Endpoint × Bool)) (p : Panic) :
      Course (job.listing looks ++ [⟨.together (job.crew looks), .error p⟩]) (.error p)

/-- When a worker waits for its members, its endpoints are listed, and it serves those that are
connected. -/
def Gathers (past : List Exchange) (q : Request) : Prop :=
  ∀ jobs, q = .together jobs → ∃ looks, jobs = job.crew looks ∧ past = job.listing looks

variable {job}

theorem gathers_of_alone {q : Request} (alone : q.isTogether = false) : job.Gathers past q := by
  rintro jobs rfl
  cases alone

end ConnectionJob

/-- A worker of a pass, with the connection that it serves and how it came out. -/
structure Hire where
  tracked : Tracked
  worker : WorkerId
  outcome : Except Panic ConnectionOutcome

namespace Hire

/-- The worker is started. -/
def start (token : Token) (username : String) (h : Hire) : Exchange :=
  ⟨.spawnWorker (h.tracked.job token username), h.worker⟩

/-- The worker is waited for. The subscribers are told of a panic. -/
def finish (h : Hire) : List Exchange :=
  ⟨.joinWorker h.worker, h.outcome⟩ ::
    match h.outcome with
    | .ok _ => []
    | .error _ => [⟨.notify (.connectionReauthenticationFailed
        (.panicked h.tracked.connection.client) h.tracked.connection.client), ()⟩]

end Hire

namespace Engine

/-- What a pass does about the connections that it has found: it starts all workers and then waits
for each. -/
def turns (token : Token) (username : String) (hires : List Hire) : List Exchange :=
  hires.map (·.start token username) ++ hires.flatMap Hire.finish

/-- All exchanges of a pass. -/
inductive PassCourse : List Exchange → Prop
  | idle (seen : Option Token) (name : Option String) (nothing : seen = none ∨ name = none) :
      PassCourse [⟨.currentToken, seen⟩, ⟨.username, name⟩]
  | busy (token : Token) (username : String) (hires : List Hire) :
      PassCourse (opening token username ++ finding token (hires.map (·.tracked)) ::
        turns token username hires)

/-- An endpoint is served to the end. -/
theorem serveEndpoint_course (job : EndpointJob) (retries : Nat) (before : List Exchange) :
    (serveEndpoint job retries).Meets told (fun _ _ => True)
      (fun past r => ∃ since, past = before ++ since ∧ job.Course retries since r) before := by
  induction retries generalizing before with
  | zero =>
      rw [serveEndpoint]
      refine ⟨trivial, fun a _ => ?_⟩
      cases a with
      | error p => exact ⟨_, rfl, .panicked [] p List.not_mem_nil (Nat.le_refl 0)⟩
      | ok reply =>
        cases reply with
        | ok _ =>
            refine ⟨trivial, fun _ _ => ⟨_, List.append_assoc _ _ _, ?_⟩⟩
            exact .accepted [] List.not_mem_nil (Nat.zero_le _)
        | error error =>
            have last (refusal : error ≠ .disposed) : job.Course 0 _ _ :=
              .failed [] error (by simpa using refusal.symm) rfl
            cases error with
            | disposed => exact ⟨_, rfl, .closed [] List.not_mem_nil (Nat.le_refl 0)⟩
            | _ =>
                refine ⟨trivial, fun _ _ => ⟨_, List.append_assoc _ _ _, last ?_⟩⟩
                simp
  | succ retries ih =>
      rw [serveEndpoint]
      refine ⟨trivial, fun a _ => ?_⟩
      cases a with
      | error p => exact ⟨_, rfl, .panicked [] p List.not_mem_nil (Nat.zero_le _)⟩
      | ok reply =>
        cases reply with
        | ok _ =>
            refine ⟨trivial, fun _ _ => ⟨_, List.append_assoc _ _ _, ?_⟩⟩
            exact .accepted [] List.not_mem_nil (Nat.zero_le _)
        | error error =>
            have next (refusal : error ≠ .disposed) : (serveEndpoint job retries).Meets told
                (fun _ _ => True) (fun past r => ∃ since, past = before ++ since ∧
                  job.Course (retries + 1) since r)
                (before ++ [job.command (.ok (.error error))]) := by
              apply (ih _).mono fun _ _ allowed => allowed
              rintro past r ⟨since, rfl, course⟩
              exact ⟨_, List.append_assoc _ _ _, course.again refusal⟩
            cases error with
            | disposed => exact ⟨_, rfl, .closed [] List.not_mem_nil (Nat.zero_le _)⟩
            | _ => exact next (by simp)

/-- The endpoints say one after another whether they are connected. -/
theorem connected_course (endpoints : List Endpoint) (before : List Exchange) :
    (connected endpoints).Meets told (fun _ q => q.isTogether = false) (fun past r =>
      match r with
      | .ok here => ∃ looks : List (Endpoint × Bool), looks.map (·.1) = endpoints ∧
          past = before ++ looks.map look ∧ here = (looks.filter (·.2)).map (·.1)
      | .error p => ∃ (looks : List (Endpoint × Bool)) (endpoint : Endpoint) (rest : List Endpoint),
          looks.map (·.1) ++ endpoint :: rest = endpoints ∧
            past = before ++ (looks.map look ++ [⟨.isConnected endpoint, .error p⟩])) before := by
  induction endpoints generalizing before with
  | nil => exact ⟨[], rfl, (List.append_nil before).symm, rfl⟩
  | cons endpoint endpoints ih =>
      rw [connected]
      refine ⟨rfl, fun a _ => ?_⟩
      cases a with
      | error p => exact ⟨[], endpoint, endpoints, rfl, rfl⟩
      | ok present =>
          show ((connected endpoints).bind fun others =>
            .pure (if present then endpoint :: others else others)).Meets told _ _ _
          refine Meets.bind ((ih _).mono (fun _ _ allowed => allowed) ?_)
          intro past r ended
          cases r with
          | error p =>
              obtain ⟨looks, other, rest, rfl, rfl⟩ := ended
              exact ⟨(endpoint, present) :: looks, other, rest, rfl, List.append_assoc _ _ _⟩
          | ok others =>
              obtain ⟨looks, rfl, rfl, rfl⟩ := ended
              refine ⟨(endpoint, present) :: looks, rfl, List.append_assoc _ _ _, ?_⟩
              cases present <;> rfl

/-- The replies are recorded. -/
theorem record_course (job : ConnectionJob) (replies : List AuthReply) (before : List Exchange) :
    (record job replies).Meets told (fun _ q => q.isTogether = false)
      (fun past r => ∃ records outcome, past = before ++ records ∧ r = .ok outcome ∧
        job.Records replies records outcome) before := by
  unfold record
  split
  · rename_i closed
    exact ⟨rfl, fun _ _ => ⟨_, _, rfl, rfl, .disposed closed⟩⟩
  · rename_i open_
    split
    · rename_i accepted
      exact ⟨rfl, fun _ _ => ⟨_, _, rfl, rfl, .reauthenticated (by simpa using open_) accepted⟩⟩
    · rename_i refused
      exact ⟨[], _, (List.append_nil before).symm, rfl,
        .failed (by simpa using open_) (by simpa using refused)⟩

/-- The connected endpoints are served, and their replies are recorded. -/
theorem gather_course (job : ConnectionJob) (looks : List (Endpoint × Bool)) :
    ((Program.request (.together (job.crew looks))).bind fun r =>
      (Program.ofAnswer r).bind (record job)).Meets told job.Gathers job.Course
        (job.listing looks) := by
  refine ⟨fun jobs same => ⟨looks, (Request.together.inj same).symm, rfl⟩, fun r _ => ?_⟩
  cases r with
  | error p => exact .broken looks p
  | ok replies =>
      apply (record_course job replies _).mono fun _ _ => ConnectionJob.gathers_of_alone
      rintro past _ ⟨records, outcome, rfl, rfl, recorded⟩
      rw [List.append_assoc]
      exact .served looks recorded

/-- A worker serves its connection to the end. -/
theorem serveConnection_course (job : ConnectionJob) :
    (serveConnection job).Meets told job.Gathers job.Course [] := by
  rw [serveConnection]
  refine ⟨ConnectionJob.gathers_of_alone rfl, fun a _ => ?_⟩
  cases a with
  | error p => exact .unlisted p
  | ok answer =>
    cases answer with
    | error error =>
      have failed (refusal : error ≠ .disposed) : job.Course _ _ := .failed error refusal
      cases error with
      | disposed => exact ⟨ConnectionJob.gathers_of_alone rfl, fun known _ => .closed known⟩
      | _ => exact ⟨ConnectionJob.gathers_of_alone rfl, fun _ _ => failed (by simp)⟩
    | ok endpoints =>
      show ((connected endpoints).bind fun l =>
        (Program.request (.together (l.map fun e => ⟨e, job.token, job.username⟩))).bind
          fun r => (Program.ofAnswer r).bind (record job)).Meets _ _ _ _
      refine Meets.bind ((connected_course endpoints _).mono
        (fun _ _ => ConnectionJob.gathers_of_alone) ?_)
      intro past r ended
      cases r with
      | error p =>
          obtain ⟨looks, endpoint, rest, rfl, rfl⟩ := ended
          exact .unsure looks endpoint rest p
      | ok here =>
          obtain ⟨looks, rfl, rfl, rfl⟩ := ended
          have crew : ((looks.filter (·.2)).map (·.1)).map
              (fun e => (⟨e, job.token, job.username⟩ : EndpointJob)) = job.crew looks := by
            rw [List.map_map]
            rfl
          show ((Program.request (.together (((looks.filter (·.2)).map (·.1)).map
            fun e => ⟨e, job.token, job.username⟩))).bind
              fun r => (Program.ofAnswer r).bind (record job)).Meets _ _ _ (job.listing looks)
          rw [crew]
          exact gather_course job looks

/-- A worker is started for each connection, in order. -/
theorem startWorkers_course (token : Token) (username : String) (found : List Tracked)
    (before : List Exchange) :
    (startWorkers token username found).Meets told (fun _ _ => True) (fun past r =>
      ∃ hired : List (Tracked × WorkerId), hired.map (·.1) = found ∧
        past = before ++ hired.map (fun x => ⟨.spawnWorker (x.1.job token username), x.2⟩) ∧
          r = .ok (hired.map fun x => (x.1.connection.client, x.2))) before := by
  induction found generalizing before with
  | nil => exact ⟨[], rfl, (List.append_nil before).symm, rfl⟩
  | cons x found ih =>
      rw [startWorkers]
      refine ⟨trivial, fun w _ => ?_⟩
      show ((startWorkers token username found).bind fun others =>
        .pure ((x.connection.client, w) :: others)).Meets told _ _ _
      refine Meets.bind ((ih _).mono (fun _ _ allowed => allowed) ?_)
      rintro past _ ⟨hired, rfl, rfl, rfl⟩
      exact ⟨(x, w) :: hired, rfl, List.append_assoc _ _ _, rfl⟩

/-- The workers are waited for in order, and the subscribers are told of those that panicked. -/
theorem joinWorkers_course (pass : Pass) (hired : List (Tracked × WorkerId))
    (before : List Exchange) :
    (joinWorkers pass (hired.map fun x => (x.1.connection.client, x.2))).Meets told
      (fun _ _ => True) (fun past r => ∃ (hires : List Hire) (pass : Pass),
        hires.map (fun h => (h.tracked, h.worker)) = hired ∧
          past = before ++ hires.flatMap Hire.finish ∧ r = .ok pass) before := by
  induction hired generalizing pass before with
  | nil => exact ⟨[], pass, rfl, (List.append_nil before).symm, rfl⟩
  | cons x hired ih =>
      rw [List.map_cons, joinWorkers]
      refine ⟨trivial, fun o _ => ?_⟩
      cases o with
      | ok outcome =>
          apply (ih (pass.count outcome) _).mono fun _ _ allowed => allowed
          rintro past _ ⟨hires, pass, rfl, rfl, rfl⟩
          exact ⟨⟨x.1, x.2, .ok outcome⟩ :: hires, pass, rfl, List.append_assoc _ _ _, rfl⟩
      | error p =>
          refine ⟨trivial, fun _ _ => ?_⟩
          apply (ih pass _).mono fun _ _ allowed => allowed
          rintro past _ ⟨hires, pass, rfl, rfl, rfl⟩
          refine ⟨⟨x.1, x.2, .error p⟩ :: hires, pass, rfl, ?_, rfl⟩
          rw [List.flatMap_cons, List.append_assoc, List.append_assoc]
          rfl

/-- One pass, to the end. -/
theorem reauthenticateAll_course (before : List Exchange) :
    reauthenticateAll.Meets told (fun _ _ => True) (fun past r =>
      ∃ since pass, past = before ++ since ∧ r = .ok pass ∧ PassCourse since) before := by
  rw [reauthenticateAll]
  refine ⟨trivial, fun seen _ => ⟨trivial, fun name _ => ?_⟩⟩
  cases seen with
  | none => exact ⟨_, _, List.append_assoc _ _ _, rfl, .idle none name (.inl rfl)⟩
  | some token =>
      cases name with
      | none => exact ⟨_, _, List.append_assoc _ _ _, rfl, .idle (some token) none (.inr rfl)⟩
      | some username =>
          refine ⟨trivial, fun found _ => ?_⟩
          show ((startWorkers token username found).bind fun workers =>
            joinWorkers { stale := found.length } workers).Meets told _ _ _
          refine Meets.bind ((startWorkers_course token username found _).mono
            (fun _ _ allowed => allowed) ?_)
          rintro past _ ⟨hired, rfl, rfl, rfl⟩
          apply (joinWorkers_course _ hired _).mono fun _ _ allowed => allowed
          rintro past _ ⟨hires, pass, rfl, rfl, rfl⟩
          refine ⟨_, pass, ?_, rfl, .busy token username hires⟩
          simp [turns, opening, Hire.start, Function.comp_def]

end Engine
end TokenKeeper
