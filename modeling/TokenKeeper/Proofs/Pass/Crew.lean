import TokenKeeper.Proofs.Machine.Shares
import TokenKeeper.Proofs.Pass.Course

/-!
# A worker and its members in a run

A worker waits for members at most once, right after its endpoints are listed. So what its members
do in a run is what they have done by now, while it waits, and what they had done when it was told
of them ever after. Each member goes through the course of its endpoint, and no others are served.
-/

namespace TokenKeeper

open Program (Meets)

variable {e : Engine} {m m₀ before : Machine e} {trace back : List Label} {t : Thread e}
variable {i j pass : Nat} {job : ConnectionJob}

/-- An endpoint is served from its first command on. -/
theorem EndpointJob.serve_course (job : EndpointJob) (retries : Nat) :
    (Engine.serveEndpoint job retries).Meets (fun _ _ => True) (fun _ _ => True)
      (job.Course retries) [] := by
  apply (Engine.serveEndpoint_course job retries []).mono fun _ _ allowed => allowed
  rintro _ r ⟨since, rfl, course⟩
  exact course

/-- A worker goes through the course of its connection. -/
theorem ConnectionJob.program_course (job : ConnectionJob) :
    job.program.Meets (fun _ _ => True) job.Gathers
      (fun past r => ∃ o : Except Panic ConnectionOutcome, r = o.map .outcome ∧ job.Course past o)
      [] := by
  refine Meets.bind ((Engine.serveConnection_course job).mono (fun _ _ allowed => allowed) ?_)
  intro past r course
  cases r with
  | ok outcome => exact ⟨.ok outcome, rfl, course⟩
  | error p => exact ⟨.error p, rfl, course⟩

theorem ConnectionJob.listing_alone (looks : List (Endpoint × Bool)) :
    ∀ x ∈ job.listing looks, x.request.isTogether = false := by
  intro x inside
  rcases List.mem_cons.mp inside with rfl | inside
  · rfl
  · obtain ⟨y, _, rfl⟩ := List.mem_map.mp inside
    rfl

namespace Member

variable {mem : Member e}

/-- A member that has ended has gone through the course of its endpoint. -/
theorem course {r : Except Panic AuthReply} (ended : mem.rest.ended? = some r) :
    mem.job.Course e.policy.immediateRetries mem.past r :=
  (mem.job.serve_course e.policy.immediateRetries).ended mem.sound ended fun _ _ _ _ => trivial

/-- A member has begun the course of its endpoint. -/
theorem begins (mem : Member e) :
    ∃ more r, mem.job.Course e.policy.immediateRetries (mem.past ++ more) r := by
  obtain ⟨more, r, _, course⟩ :=
    (mem.job.serve_course e.policy.immediateRetries).can_end mem.sound
  exact ⟨more, r, course⟩

end Member

namespace Thread

/-- While a worker waits for its members, it has listed its endpoints and done nothing else. -/
theorem gathers (duty : t.duty = .worker pass job) {jobs : List EndpointJob}
    {resume : Except Panic (List AuthReply) → Program Output}
    (asks : t.rest = .ask (.together jobs) resume) :
    ∃ looks, jobs = job.crew looks ∧ t.past = job.listing looks := by
  have reached := t.sound
  rw [duty, asks] at reached
  exact (job.program_course.reaches reached fun _ _ _ _ => trivial).1 jobs rfl

/-- A worker that has ended has gone through the course of its connection. -/
theorem course (duty : t.duty = .worker pass job) {r : Except Panic ConnectionOutcome}
    (ended : t.outcome? = some r) : job.Course t.past r := by
  have reached := t.sound
  rw [duty] at reached
  have output : t.rest.ended? = some (r.map .outcome) := by
    unfold outcome? at ended
    split at ended
    · rename_i rest
      obtain rfl := Option.some.inj ended
      rw [rest]
      rfl
    · rename_i rest
      obtain rfl := Option.some.inj ended
      rw [rest]
      rfl
    · cases ended
  obtain ⟨o, same, course⟩ := job.program_course.ended reached output fun _ _ _ _ => trivial
  cases r <;> cases o <;> cases same <;> exact course

/-- A worker has begun the course of its connection. -/
theorem begins (duty : t.duty = .worker pass job) : ∃ more r, job.Course (t.past ++ more) r := by
  have reached := t.sound
  rw [duty] at reached
  obtain ⟨more, _, _, o, _, course⟩ := job.program_course.can_end reached
  exact ⟨more, o, course⟩

end Thread

/-- A worker at the moment at which it is told of its members. They are settled, and what they have
done by then is all that they do in the run. -/
structure Muster (m₀ m : Machine e) (trace : List Label) (i pass : Nat) (job : ConnectionJob)
    (past : List Exchange) (jobs : List EndpointJob) (r : Except Panic (List AuthReply))
    (told : Thread e) : Prop where
  moment : ∃ front back before, trace = front ++ back ∧ Run m₀ front before ∧ Run before back m ∧
    before.threads[i]? = some told
  duty : told.duty = .worker pass job
  past : told.past = past
  asks : ∃ resume, told.rest = .ask (.together jobs) resume
  crew : told.members.map (·.job) = jobs
  settled : Settled told.members r
  served : ∀ j, trace.filterMap (Label.served? i j) = told.memberPast j

namespace Run

/-- Once a worker has been told of its members, nobody is served for it any more. -/
theorem served_eq_nil (rest : Run before back m) (there : before.threads[i]? = some t)
    (duty : t.duty = .worker pass job) {x : Exchange} (told : x ∈ t.past)
    (together : x.request.isTogether = true) : back.filterMap (Label.served? i j) = [] := by
  rw [List.filterMap_eq_nil_iff]
  intro l inside
  obtain ⟨middle, tail, rfl⟩ := List.append_of_mem inside
  obtain ⟨m₁, m₂, onward, step, _⟩ := rest.cut
  cases l with
  | began c => rfl
  | dropped c => rfl
  | did d =>
      obtain ⟨thread, duty', member, past, y⟩ := d
      cases member with
      | none => rfl
      | some place =>
          obtain ⟨place, endpoint⟩ := place
          refine if_neg fun same => ?_
          obtain ⟨rfl, _⟩ := same
          obtain ⟨t', _, jobs, resume, at_, _, asks, _⟩ := step.waits rfl
          obtain ⟨t'', at_', grows⟩ := onward.grows there
          obtain rfl := Option.some.inj (at_'.symm.trans at_)
          obtain ⟨looks, _, listed⟩ := Thread.gathers (grows.duty.trans duty) asks
          obtain ⟨since, past⟩ := grows.past
          have never := ConnectionJob.listing_alone looks x
            (listed ▸ past ▸ List.mem_append_left since told)
          rw [together] at never
          cases never

/-- Until a worker is told of its members, what they have done in the run is what they have done
by now. -/
theorem served_of_untold (run : Run m₀ trace m) (late : m₀.threads.length ≤ i)
    (here : m.threads[i]? = some t) (untold : ∀ x ∈ t.past, x.request.isTogether = false) :
    trace.filterMap (Label.served? i j) = t.memberPast j := by
  have sofar := run.memberPast (i := i) (j := j) fun x inside => by
    rw [Machine.pastOf_of_some here] at inside
    exact untold x inside
  rw [Machine.memberPast_of_some here,
    Machine.memberPast_of_none (List.getElem?_eq_none_iff.mpr late), List.nil_append] at sofar
  exact sofar.symm

/-- A worker that knows of its members was told at some moment. -/
theorem muster (run : Run m₀ trace m) (late : m₀.threads.length ≤ i)
    (here : m.threads[i]? = some t) (duty : t.duty = .worker pass job)
    {earlier later : List Exchange} {jobs : List EndpointJob} {r : Except Panic (List AuthReply)}
    (cut : t.past = earlier ++ ⟨.together jobs, r⟩ :: later) :
    ∃ told, Muster m₀ m trace i pass job earlier jobs r told := by
  have deed := (run.history late here).own _ _ _ cut
  obtain ⟨front, back, rfl⟩ := List.append_of_mem deed
  obtain ⟨before, after, first, step, rest⟩ := run.cut
  obtain ⟨told, resume, there, past, asks, settled, crew⟩ := step.settled rfl rfl
  have onward := (Run.single step).trans rest
  have duty' : told.duty = .worker pass job := by
    obtain ⟨t', last, grows⟩ := onward.grows there
    obtain rfl := Option.some.inj (last.symm.trans here)
    exact grows.duty.symm.trans duty
  refine ⟨told, ⟨front, _, before, rfl, first, onward, there⟩, duty', past, ⟨resume, asks⟩, crew,
    settled, fun j => ?_⟩
  -- Up to the answer the members' pasts are what they did, and from then on they do nothing.
  obtain ⟨looks, _, listed⟩ := Thread.gathers duty' asks
  have sofar := first.served_of_untold (j := j) late there
    fun x inside => ConnectionJob.listing_alone looks x (listed ▸ inside)
  obtain ⟨after', there', isWorker, now⟩ := step.recorded rfl
  have idle : back.filterMap (Label.served? i j) = [] := by
    refine rest.served_eq_nil there' (isWorker.trans duty) (x := ⟨.together jobs, r⟩) ?_ rfl
    rw [now]
    exact List.mem_append_right _ List.mem_cons_self
  rw [List.filterMap_append, List.filterMap_cons, idle, ← sofar]
  exact List.append_nil _

end Run

/-- An endpoint that the worker has found connected has been served so far. -/
def ConnectionJob.Serves (job : ConnectionJob) (retries : Nat) (past : List Exchange) (j : Nat)
    (served : List Exchange) : Prop :=
  ∃ (looks : List (Endpoint × Bool)) (endpoint : EndpointJob) (more : List Exchange)
    (r : Except Panic AuthReply), job.listing looks <+: past ∧
      (job.crew looks)[j]? = some endpoint ∧ endpoint.Course retries (served ++ more) r

/-- What a worker and its members have done in a run, from the list of endpoints to their replies.
The worker itself goes through the course of its connection. Its members go through the courses of
the endpoints that said they are connected, with the token and the username of the worker; all of
them to the end, if the worker has their replies, and one of them, if it has a panic. -/
structure Thread.Worked (trace : List Label) (i : Nat) (job : ConnectionJob) (t : Thread e) :
    Prop where
  own : trace.filterMap (Label.own? i) = t.past
  begun : ∃ more r, job.Course (t.past ++ more) r
  ended : ∀ r, t.outcome? = some r → job.Course t.past r
  served : ∀ j, trace.filterMap (Label.served? i j) ≠ [] →
    job.Serves e.policy.immediateRetries t.past j (trace.filterMap (Label.served? i j))
  replied : ∀ jobs replies, (⟨.together jobs, .ok replies⟩ : Exchange) ∈ t.past →
    replies.length = jobs.length ∧ ∀ (j : Nat) (endpoint : EndpointJob) (reply : AuthReply),
      jobs[j]? = some endpoint → replies[j]? = some reply →
        endpoint.Course e.policy.immediateRetries (trace.filterMap (Label.served? i j)) (.ok reply)
  panicked : ∀ jobs p, (⟨.together jobs, .error p⟩ : Exchange) ∈ t.past →
    ∃ (j : Nat) (endpoint : EndpointJob), jobs[j]? = some endpoint ∧
      endpoint.Course e.policy.immediateRetries (trace.filterMap (Label.served? i j)) (.error p)

namespace Run

/-- What the members of a worker have done begins the courses of the connected endpoints. -/
theorem served_begun (run : Run m₀ trace m) (late : m₀.threads.length ≤ i)
    (here : m.threads[i]? = some t) (duty : t.duty = .worker pass job)
    (busy : trace.filterMap (Label.served? i j) ≠ []) :
    job.Serves e.policy.immediateRetries t.past j (trace.filterMap (Label.served? i j)) := by
  have begun {told : Thread e} (isWorker : told.duty = .worker pass job)
      (served : trace.filterMap (Label.served? i j) = told.memberPast j)
      (upTo : told.past <+: t.past) :
      job.Serves e.policy.immediateRetries t.past j (trace.filterMap (Label.served? i j)) := by
    rw [served] at busy ⊢
    cases inside : told.members[j]? with
    | none => exact absurd (Thread.memberPast_of_none inside) busy
    | some mem =>
        obtain ⟨jobs, resume, asks, isJob⟩ := Thread.waits_of_member inside
        obtain ⟨looks, rfl, listed⟩ := Thread.gathers isWorker asks
        rw [Thread.memberPast_of_some inside]
        obtain ⟨more, r, course⟩ := mem.begins
        exact ⟨looks, mem.job, more, r, listed ▸ upTo, isJob, course⟩
  by_cases known : ∃ jobs r, (⟨.together jobs, r⟩ : Exchange) ∈ t.past
  · obtain ⟨jobs, r, known⟩ := known
    obtain ⟨earlier, later, cut⟩ := List.append_of_mem known
    obtain ⟨told, muster⟩ := run.muster late here duty cut
    refine begun muster.duty (muster.served j) ?_
    rw [muster.past, cut]
    exact List.prefix_append _ _
  · refine begun duty (run.served_of_untold late here fun x inside => ?_) List.prefix_rfl
    obtain ⟨q, a⟩ := x
    cases q with
    | together jobs => exact absurd ⟨jobs, a, inside⟩ known
    | _ => rfl

/-- Every worker and its members go through their courses. -/
theorem worked (run : Run ({} : Machine e) trace m) (here : m.threads[i]? = some t)
    (duty : t.duty = .worker pass job) : t.Worked trace i job where
  own := by
    have own := run.pastOf (i := i)
    rwa [Machine.pastOf_of_some here, Machine.pastOf_of_none rfl, List.nil_append, eq_comm] at own
  begun := Thread.begins duty
  ended := fun _ => Thread.course duty
  served := fun _ => run.served_begun (Nat.zero_le i) here duty
  replied := by
    intro jobs replies known
    obtain ⟨earlier, later, cut⟩ := List.append_of_mem known
    obtain ⟨told, muster⟩ := run.muster (Nat.zero_le i) here duty cut
    obtain rfl := muster.crew
    have rests : told.members.map (·.rest) = replies.map .pure := muster.settled
    have length := congrArg List.length rests
    rw [List.length_map, List.length_map] at length
    refine ⟨by rw [List.length_map, length], fun j endpoint reply isJob isReply => ?_⟩
    rw [List.getElem?_map, Option.map_eq_some_iff] at isJob
    obtain ⟨mem, inside, rfl⟩ := isJob
    have ended : some mem.rest = some (.pure reply) := by
      have same := congrArg (·[j]?) rests
      simpa only [List.getElem?_map, inside, isReply, Option.map_some] using same
    rw [muster.served, Thread.memberPast_of_some inside]
    exact mem.course (by rw [Option.some.inj ended]; rfl)
  panicked := by
    intro jobs p known
    obtain ⟨earlier, later, cut⟩ := List.append_of_mem known
    obtain ⟨told, muster⟩ := run.muster (Nat.zero_le i) here duty cut
    obtain rfl := muster.crew
    obtain ⟨mem, isMember, panicked⟩ := muster.settled
    obtain ⟨j, inside⟩ := List.getElem?_of_mem isMember
    refine ⟨j, mem.job, by rw [List.getElem?_map, inside]; rfl, ?_⟩
    rw [muster.served, Thread.memberPast_of_some inside]
    exact mem.course (by rw [panicked]; rfl)

end Run
end TokenKeeper
