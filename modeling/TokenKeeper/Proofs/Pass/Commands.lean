import TokenKeeper.Proofs.Pass.Crew

/-!
# The commands of a worker

The members of a worker send the commands that the conduct of its connection calls for. A panic of
one cuts the others short, and then it is the order of the answers that decides how many each
endpoint was sent.
-/

namespace TokenKeeper

variable {e : Engine} {m m₀ : Machine e} {labels : List Label} {worker : Thread e}
variable {c : Conduct} {job : ConnectionJob} {retries j : Nat} {C C' : List (Nat × Exchange)}

/-- A command for a connection, with the place of its endpoint. -/
def Label.command? (id : ConnectionId) : Label → Option (Nat × Exchange)
  | .did ⟨_, .worker _ job, some (j, _), _, x⟩ =>
    if job.id = id ∧ x.request.isAuth = true then some (j, x) else none
  | _ => none

/-- The commands that the endpoints of a connection were sent in a run. -/
def commandsTo (id : ConnectionId) (trace : List Label) : List (Nat × Exchange) :=
  trace.filterMap (Label.command? id)

/-- The commands were answered in this order, and a panic was the last answer: with it the worker is
through. -/
structure InOrder (order : List Nat) (C : List (Nat × Exchange)) : Prop where
  order : C.map (·.1) <+: order
  last : ∀ (earlier : List (Nat × Exchange)) (x : Nat × Exchange) (later : List (Nat × Exchange)),
    C = earlier ++ x :: later → x.2.panicked = true → later = []

/-- The endpoints of a connection were sent what its conduct calls for: each its commands in order;
all of them, if no part of the work panics; up to a panic, if a member panics; and none, if it does
not come to that. -/
structure Conduct.Sent (c : Conduct) (retries : Nat) (job : ConnectionJob)
    (C : List (Nat × Exchange)) : Prop where
  inOrder : ∀ j, shareOf j C <+: c.commands job retries j
  whole : ¬ c.Panics retries → ∀ j, shareOf j C = c.commands job retries j
  broken : c.Panics retries → c.Musters → ∃ x ∈ C, x.2.panicked = true
  none : ¬ c.Musters → C = []

/-- What was sent after a panic is the same if it was answered in the same order. -/
theorem Conduct.Sent.eq_of_inOrder {order : List Nat} (sent : c.Sent retries job C)
    (sent' : c.Sent retries job C') (panics : c.Panics retries) (ordered : InOrder order C)
    (ordered' : InOrder order C') : C = C' := by
  by_cases musters : c.Musters
  · have shorter {C C' : List (Nat × Exchange)} (sent : c.Sent retries job C)
        (sent' : c.Sent retries job C') (ordered : InOrder order C) (ordered' : InOrder order C')
        (turns : C.map (·.1) <+: C'.map (·.1)) : C = C' := by
      obtain ⟨rest, rfl⟩ := prefix_of_turns sent.inOrder sent'.inOrder turns
      obtain ⟨x, inside, panicked⟩ := sent.broken panics musters
      obtain ⟨earlier, later, rfl⟩ := List.append_of_mem inside
      have nothing := ordered'.last earlier x (later ++ rest) (by simp) panicked
      rw [(List.append_eq_nil_iff.mp nothing).2, List.append_nil]
    rcases List.prefix_or_prefix_of_prefix ordered.order ordered'.order with turns | turns
    · exact shorter sent sent' ordered ordered' turns
    · exact (shorter sent' sent ordered' ordered turns).symm
  · rw [sent.none musters, sent'.none musters]

/-- What an endpoint was sent does not depend on the run, where no part of the work panics or the
answers come in the same order. -/
theorem Conduct.Sent.share_eq (sent : c.Sent retries job C) (sent' : c.Sent retries job C')
    (same : ¬ c.Panics retries ∨ ∃ order, InOrder order C ∧ InOrder order C') :
    shareOf j C = shareOf j C' := by
  by_cases panics : c.Panics retries
  · obtain ⟨order, ordered, ordered'⟩ := same.resolve_left (fun calm => calm panics)
    rw [sent.eq_of_inOrder sent' panics ordered ordered']
  · rw [sent.whole panics j, sent'.whole panics j]

/-- A worker in a run in which it and its members are told what a conduct says. -/
structure Employed (c : Conduct) (pass : Nat) (job : ConnectionJob) (i : Nat) (m₀ m : Machine e)
    (labels : List Label) (worker : Thread e) : Prop where
  run : Run m₀ labels m
  late : m₀.threads.length ≤ i
  here : m.threads[i]? = some worker
  duty : worker.duty = .worker pass job
  governed : ∀ d, .did d ∈ labels → d.thread = i → d.duty = .worker pass job → c.Governs d

/-- A member that is told what the conduct says has sent what its endpoint is to be sent, in that
order, and all of it by its end. -/
theorem Conduct.sends_of_told {P : Deed → Prop} {i k : Nat} {duty : Duty} {endpoint : EndpointJob}
    {past : List Exchange} {rest : Program AuthReply}
    (governed : ∀ d, P d → d.thread = i → d.duty = duty → c.Governs d)
    (place : c.places[j]? = some k)
    (reached : (Engine.serveEndpoint endpoint retries).Reaches past rest)
    (told : Told P i duty (some (j, endpoint)) past) :
    sent past <+: endpoint.commands (c.replies k) retries 0 ∧
      (rest.ended?.isSome = true → sent past = endpoint.commands (c.replies k) retries 0) := by
  have met := (Engine.serveEndpoint_sends (c.replies k) endpoint retries []).reaches reached
    fun earlier x later cut => by
      intro target username secret a same
      have deed := governed _ (told earlier x later cut) rfl rfl
      exact deed.replies j k endpoint target username secret a rfl place same
  cases rest with
  | pure reply => exact ⟨met ▸ List.prefix_rfl, fun _ => met⟩
  | panic p => exact ⟨met ▸ List.prefix_rfl, fun _ => met⟩
  | ask q resume => exact ⟨met.1, nofun⟩

/-- A worker with its members, when it is told of them: what they have done is what they did in the
run. -/
structure Team (c : Conduct) (pass : Nat) (job : ConnectionJob) (i : Nat) (labels : List Label)
    (told : Thread e) : Prop where
  crew : told.members.map (·.job) = c.crew job
  kept : told.Kept (fun d => .did d ∈ labels) i
  duty : told.duty = .worker pass job
  governed : ∀ d, .did d ∈ labels → d.thread = i → d.duty = .worker pass job → c.Governs d
  served : ∀ j, labels.filterMap (Label.served? i j) = told.memberPast j

namespace Team

variable {i pass : Nat} {told : Thread e} {mem : Member e}

/-- The commands for the endpoint of a member. -/
theorem serves (team : Team c pass job i labels told) (retries : Nat)
    (inside : told.members[j]? = some mem) :
    ∃ k, c.places[j]? = some k ∧
      c.commands job retries j = mem.job.commands (c.replies k) retries 0 := by
  refine Conduct.commands_of_crew ?_
  rw [← team.crew, List.getElem?_map, inside]
  rfl

/-- What a member has sent, and what it has sent by its end. -/
theorem member_sent (team : Team c pass job i labels told) (inside : told.members[j]? = some mem) :
    sent mem.past <+: c.commands job e.policy.immediateRetries j ∧
      (mem.rest.ended?.isSome = true →
        sent mem.past = c.commands job e.policy.immediateRetries j) := by
  obtain ⟨k, place, same⟩ := team.serves e.policy.immediateRetries inside
  rw [same]
  exact Conduct.sends_of_told
    (fun d happened number same => team.governed d happened number (same.trans team.duty)) place
    mem.sound (team.kept.members j mem inside)

theorem share_prefix (team : Team c pass job i labels told) (j : Nat) :
    sent (labels.filterMap (Label.served? i j)) <+:
      c.commands job e.policy.immediateRetries j := by
  rw [team.served]
  cases inside : told.members[j]? with
  | none =>
      rw [Thread.memberPast_of_none inside]
      exact List.nil_prefix
  | some mem =>
      rw [Thread.memberPast_of_some inside]
      exact (team.member_sent inside).1

theorem share_eq (team : Team c pass job i labels told)
    (ended : ∀ mem, told.members[j]? = some mem → mem.rest.ended?.isSome = true) :
    sent (labels.filterMap (Label.served? i j)) =
      c.commands job e.policy.immediateRetries j := by
  rw [team.served]
  cases inside : told.members[j]? with
  | none =>
      have absent : (c.crew job)[j]? = none := by
        rw [← team.crew, List.getElem?_map, inside]
        rfl
      rw [Thread.memberPast_of_none inside, Conduct.commands_of_none absent]
      rfl
  | some mem =>
      rw [Thread.memberPast_of_some inside]
      exact (team.member_sent inside).2 (ended mem inside)

/-- A member that panics has panicked at a command. -/
theorem panicked {p : Panic} (team : Team c pass job i labels told)
    (inside : told.members[j]? = some mem) (panics : mem.rest = .panic p) :
    ∃ x ∈ sent (labels.filterMap (Label.served? i j)), x.panicked = true := by
  have ended : mem.rest.ended? = some (.error p) := by rw [panics]; rfl
  obtain ⟨k, place, same⟩ := team.serves e.policy.immediateRetries inside
  have reply := Conduct.reply_of_told
    (fun d happened number same => team.governed d happened number (same.trans team.duty)) place
    mem.sound (team.kept.members j mem inside) ended
  obtain ⟨x, among, loud⟩ := mem.job.panicked_of_settle reply
  refine ⟨x, ?_, loud⟩
  rw [team.served, Thread.memberPast_of_some inside,
    (team.member_sent inside).2 (by rw [ended]; rfl), same]
  exact among

end Team

namespace Employed

variable {i pass : Nat} {front back : List Label} {before : Machine e}

/-- The worker earlier in the run. -/
theorem upTo (h : Employed c pass job i m₀ m (front ++ back) worker) (first : Run m₀ front before)
    (rest : Run before back m) {earlier : Thread e} (there : before.threads[i]? = some earlier) :
    Employed c pass job i m₀ before front earlier where
  run := first
  late := h.late
  here := there
  duty := by
    obtain ⟨t, last, grows⟩ := rest.grows there
    obtain rfl := Option.some.inj (last.symm.trans h.here)
    exact grows.duty.symm.trans h.duty
  governed := fun d inside => h.governed d (List.mem_append_left _ inside)

/-- What the worker has been told agrees with the conduct. -/
theorem explains (h : Employed c pass job i m₀ m labels worker) (earlier : List Exchange)
    (x : Exchange) (later : List Exchange) (cut : worker.past = earlier ++ x :: later) :
    c.Explains e.policy.immediateRetries earlier x :=
  (h.run.history h.late h.here).explains
    (fun d inside number same => h.governed d inside number (same.trans h.duty)) cut

/-- The worker keeps to the conduct. -/
theorem gathers (h : Employed c pass job i m₀ m labels worker) :
    worker.rest.Meets (c.Explains e.policy.immediateRetries) (c.Gathers job)
      (fun past _ => c.Musters → ∃ r, (⟨.together (c.crew job), r⟩ : Exchange) ∈ past)
      worker.past := by
  have reached := worker.sound
  rw [h.duty] at reached
  exact (job.program_gathers c e.policy.immediateRetries).reaches reached h.explains

/-- While the worker waits for members, these are its connected endpoints. -/
theorem gathers_now (h : Employed c pass job i m₀ m labels worker) {jobs : List EndpointJob}
    {resume : Except Panic (List AuthReply) → Program Output}
    (asks : worker.rest = .ask (.together jobs) resume) :
    jobs = c.crew job ∧ c.Musters := by
  have met := h.gathers
  rw [asks] at met
  obtain ⟨same, musters, _⟩ := met.1 rfl
  exact ⟨Request.together.inj same, musters⟩

/-- What the members of a worker have done in a run is what they had done when it was told. -/
theorem settled (h : Employed c pass job i m₀ m labels worker) {earlier later : List Exchange}
    {jobs : List EndpointJob} {r : Except Panic (List AuthReply)}
    (cut : worker.past = earlier ++ ⟨.together jobs, r⟩ :: later) :
    c.Musters ∧ jobs = c.crew job ∧ ∃ told : Thread e, Settled told.members r ∧
      Team c pass job i labels told := by
  obtain ⟨told, muster⟩ := h.run.muster h.late h.here h.duty cut
  obtain ⟨front, back, before, rfl, first, rest, there⟩ := muster.moment
  obtain ⟨resume, asks⟩ := muster.asks
  obtain ⟨isCrew, musters⟩ := (h.upTo first rest there).gathers_now asks
  refine ⟨musters, isCrew, told, muster.settled, muster.crew.trans isCrew, ?kept, muster.duty,
    h.governed, muster.served⟩
  case kept =>
    exact first.kept (fun d inside => List.mem_append_left _ inside) i told h.late there

/-- A worker that has ended has been told of its members, if they muster. -/
theorem told_of_musters (h : Employed c pass job i m₀ m labels worker)
    (ended : worker.rest.ended?.isSome = true) (musters : c.Musters) :
    ∃ r, (⟨.together (c.crew job), r⟩ : Exchange) ∈ worker.past := by
  have met := h.gathers
  cases rest : worker.rest with
  | ask q resume =>
      rw [rest] at ended
      cases ended
  | pure output =>
      rw [rest] at met
      exact met musters
  | panic p =>
      rw [rest] at met
      exact met musters

/-- What the members have sent that the worker was told of is what its conduct calls for. -/
theorem sent_of_told (h : Employed c pass job i m₀ m labels worker) {jobs : List EndpointJob}
    {r : Except Panic (List AuthReply)} (answered : (⟨.together jobs, r⟩ : Exchange) ∈ worker.past)
    (shares : ∀ j, shareOf j C = sent (labels.filterMap (Label.served? i j))) :
    c.Sent e.policy.immediateRetries job C := by
  obtain ⟨earlier, later, cut⟩ := List.append_of_mem answered
  obtain ⟨musters, rfl, told, settled, team⟩ := h.settled cut
  have said := h.explains _ _ _ cut
  refine ⟨fun j => shares j ▸ team.share_prefix j, fun calm j => ?whole, fun panics _ => ?broken,
    fun unmustered => absurd musters unmustered⟩
  case whole =>
    rw [shares]
    refine team.share_eq fun mem inside => ?_
    cases r with
    | error p => exact absurd said.panics calm
    | ok replies =>
        have rests : told.members.map (·.rest) = replies.map .pure := settled
        have here : some mem.rest = replies[j]?.map Program.pure := by
          rw [← List.getElem?_map, ← rests, List.getElem?_map, inside]
          rfl
        obtain ⟨reply, _, same⟩ := Option.map_eq_some_iff.mp here.symm
        rw [← same]
        rfl
  case broken =>
    cases r with
    | ok replies => exact absurd panics (said.calm musters)
    | error p =>
        obtain ⟨mem, isMember, panicked⟩ := settled
        obtain ⟨j, inside⟩ := List.getElem?_of_mem isMember
        obtain ⟨x, among, loud⟩ := team.panicked inside panicked
        exact ⟨(j, x), mem_shareOf.mp (shares j ▸ among), loud⟩

/-- Where the worker has ended without members, nothing was sent, as its conduct calls for. -/
theorem sent_of_untold (h : Employed c pass job i m₀ m labels worker)
    (ended : worker.rest.ended?.isSome = true)
    (untold : ∀ x ∈ worker.past, x.request.isTogether = false)
    (shares : ∀ j, shareOf j C = sent (labels.filterMap (Label.served? i j))) :
    c.Sent e.policy.immediateRetries job C := by
  have unmustered : ¬ c.Musters := by
    intro musters
    obtain ⟨r, told⟩ := h.told_of_musters ended musters
    cases untold _ told
  have served (j : Nat) : labels.filterMap (Label.served? i j) = [] := by
    rw [h.run.served_of_untold h.late h.here untold, Thread.memberPast_of_none]
    rw [Thread.members_of_ended ended]
    rfl
  have nothing (j : Nat) : shareOf j C = [] := by
    rw [shares, served]
    rfl
  have empty : C = [] := by
    refine List.eq_nil_iff_forall_not_mem.mpr fun x inside => ?_
    have among : x.2 ∈ shareOf x.1 C := mem_shareOf.mpr inside
    rw [nothing] at among
    cases among
  refine ⟨fun j => nothing j ▸ List.nil_prefix, fun calm j => ?_,
    fun _ musters => absurd musters unmustered, fun _ => empty⟩
  have unlisted : c.lists = false := by
    by_contra listed
    exact unmustered (Conduct.musters_of_lists calm (by simpa using listed))
  rw [nothing, Conduct.commands_of_none]
  rw [Conduct.crew_of_unlisted unlisted]
  rfl

/-- What the members of a worker have sent by its end is what its conduct calls for. -/
theorem sent (h : Employed c pass job i m₀ m labels worker)
    (ended : worker.rest.ended?.isSome = true)
    (shares : ∀ j, shareOf j C = sent (labels.filterMap (Label.served? i j))) :
    c.Sent e.policy.immediateRetries job C := by
  by_cases told : ∃ jobs r, (⟨.together jobs, r⟩ : Exchange) ∈ worker.past
  · obtain ⟨jobs, r, told⟩ := told
    exact h.sent_of_told told shares
  · refine h.sent_of_untold ended (fun x inside => ?_) shares
    obtain ⟨q, a⟩ := x
    cases q with
    | together jobs => exact absurd ⟨jobs, a, inside⟩ told
    | _ => rfl

end Employed

end TokenKeeper
