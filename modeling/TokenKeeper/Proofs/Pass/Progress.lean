import Mathlib.Data.Set.List
import TokenKeeper.Proofs.Machine.Recording
import TokenKeeper.Proofs.Pass.Governed
import TokenKeeper.Proofs.Pass.Origin

/-!
# Workers can always go on

Wherever the workers of a pass are, and whatever their conduct, each can be brought to its end by
nothing but its own deeds: a member ends once its commands are answered, and a worker once its
members have ended. So no worker waits for ever for something that only others could do.
-/

namespace TokenKeeper

variable {e : Engine} {pass i j : Nat} {conduct : ConnectionId → Conduct}
variable {m m' m'' : Machine e} {t : Thread e} {job : ConnectionJob}

/-- A deed by which a pass goes on as the conducts say. -/
structure Deed.Fits (pass : Nat) (conduct : ConnectionId → Conduct) (d : Deed) : Prop where
  inPass : d.InPass pass
  governed : ∀ job, d.duty = .worker pass job → (conduct job.id).Governs d

/-- Deeds of a pass lead from one machine to another, and of the tasks that were there at most
one has gone on. -/
structure GoesOn (pass : Nat) (conduct : ConnectionId → Conduct) (i : Nat) (m m' : Machine e) :
    Prop where
  run : ∃ trace, Run m trace m' ∧ ∀ l ∈ trace, ∃ d, l = .did d ∧ d.Fits pass conduct
  others : ∀ k t, k ≠ i → m.threads[k]? = some t → m'.threads[k]? = some t

namespace GoesOn

theorem refl (m : Machine e) : GoesOn pass conduct i m m :=
  ⟨⟨[], .refl m, fun _ inside => nomatch inside⟩, fun _ _ _ here => here⟩

theorem trans (first : GoesOn pass conduct i m m') (second : GoesOn pass conduct i m' m'') :
    GoesOn pass conduct i m m'' := by
  obtain ⟨trace, run, fits⟩ := first.run
  obtain ⟨trace', run', fits'⟩ := second.run
  refine ⟨⟨trace ++ trace', run.trans run', ?_⟩, ?_⟩
  · intro l inside
    rcases List.mem_append.mp inside with inside | inside
    · exact fits l inside
    · exact fits' l inside
  · intro k t other here
    exact second.others k t other (first.others k t other here)

theorem single {d : Deed} (step : Step m (.did d) m') (fits : d.Fits pass conduct)
    (others : ∀ k t, k ≠ i → m.threads[k]? = some t → m'.threads[k]? = some t) :
    GoesOn pass conduct i m m' := by
  refine ⟨⟨_, Run.single step, ?_⟩, others⟩
  intro l inside
  exact ⟨d, List.mem_singleton.mp inside, fits⟩

end GoesOn

/-- The answer that a conduct gives to what the outside is asked. -/
def Conduct.answer (c : Conduct) (member : Option Nat) (past : List Exchange) :
    (q : Request) → q.Answer
  | .endpoints _ => c.servers
  | .isConnected _ => c.connected (asked Request.isLook past)
  | .auth _ _ _ =>
    match member.bind (c.places[·]?) with
    | some k => c.replies k (asked Request.isAuth past)
    | none => .ok (.ok ())
  | q => q.blank

/-- A deed that is answered like this is governed by the conduct. -/
theorem Conduct.governs_answer (c : Conduct) (thread : Nat) (duty : Duty)
    (member : Option (Nat × EndpointJob)) (past : List Exchange) (q : Request) :
    c.Governs ⟨thread, duty, member, past, ⟨q, c.answer (member.map (·.1)) past q⟩⟩ := by
  refine ⟨?_, ?_, ?_⟩
  · rintro connection a ⟨⟩
    rfl
  · rintro endpoint a ⟨⟩
    rfl
  · rintro j k job endpoint username secret a rfl place ⟨⟩
    simp only [answer, Option.map_some, Option.bind_some, place]

/-- A deed that asks nothing of the outside is governed by every conduct. -/
theorem Conduct.governs_of_inside {c : Conduct} {d : Deed}
    (inside : match d.exchange.request with
      | .endpoints _ | .isConnected _ | .auth _ _ _ => False
      | _ => True) : c.Governs d := by
  refine ⟨?_, ?_, ?_⟩
  · intro connection a same
    rw [same] at inside
    exact inside.elim
  · intro endpoint a same
    rw [same] at inside
    exact inside.elim
  · intro j k job endpoint username secret a _ _ same
    rw [same] at inside
    exact inside.elim

/-- Another task is not touched by an answer to this one. -/
theorem Machine.others_of_tell {t' : Thread e} {q : Request} :
    ∀ k t, k ≠ i → m.threads[k]? = some t → (m.tell i t' q).threads[k]? = some t := by
  intro k t other here
  exact Machine.getElem?_tell_of_ne here (Ne.symm other)

variable (conduct) in
/-- A member can be served to its end, while its task waits. -/
theorem Member.can_end {mem : Member e} {p : Program AuthReply} (rest : mem.rest = p)
    (here : m.threads[i]? = some t) (duty : t.duty = .worker pass job) (late : pass < i)
    (inside : t.members[j]? = some mem) :
    ∃ (m' : Machine e) (t' : Thread e) (mem' : Member e), GoesOn pass conduct i m m' ∧
      m'.threads[i]? = some t' ∧ t'.duty = t.duty ∧ t'.past = t.past ∧ t'.rest = t.rest ∧
      t'.members = t.members.set j mem' ∧ mem'.rest.ended?.isSome = true := by
  have bound := (List.getElem?_eq_some_iff.mp here).1
  have same : t.members = t.members.set j mem := by
    obtain ⟨low, rfl⟩ := List.getElem?_eq_some_iff.mp inside
    exact (List.set_getElem_self low).symm
  induction p generalizing m t mem with
  | pure reply =>
      exact ⟨m, t, mem, .refl m, here, rfl, rfl, rfl, same, by rw [rest]; rfl⟩
  | panic p =>
      exact ⟨m, t, mem, .refl m, here, rfl, rfl, rfl, same, by rw [rest]; rfl⟩
  | ask q resume ih =>
      have asks : Engine.EndpointAsks mem.job mem.past q := by
        have reached := mem.sound
        rw [rest] at reached
        have met := Engine.serveEndpoint_accepted mem.job e.policy.immediateRetries []
        exact (met.reaches reached fun _ _ _ _ => trivial).1
      have permits : m.Permits [] q ((conduct job.id).answer (some j) mem.past q) := by
        cases q with
        | auth => exact fun b known => nomatch known
        | notify => exact fun b known => nomatch known
        | _ => exact asks.elim
      have step := Step.tellMember here inside rest permits
      have fits : Deed.Fits pass conduct ⟨i, t.duty, some (j, mem.job), mem.past,
          ⟨q, (conduct job.id).answer (some j) mem.past q⟩⟩ := by
        refine ⟨.inr ⟨late, job, duty⟩, fun job' same => ?_⟩
        obtain ⟨_, rfl⟩ := Duty.worker.inj (duty.symm.trans same)
        exact Conduct.governs_answer _ i t.duty (some (j, mem.job)) mem.past q
      have now := Machine.getElem?_tell_self (m := m) (q := q)
        (t := t.tellMember inside rest ((conduct job.id).answer (some j) mem.past q)) bound
      have low := (List.getElem?_eq_some_iff.mp inside).1
      have served : (t.tellMember inside rest
          ((conduct job.id).answer (some j) mem.past q)).members[j]? =
            some (mem.tell rest ((conduct job.id).answer (some j) mem.past q)) :=
        List.getElem?_set_self low
      obtain ⟨m', t', mem', onward, there, sameDuty, samePast, sameRest, members, ended⟩ :=
        ih _ rfl now duty served (List.getElem?_eq_some_iff.mp now).1 (List.set_set _).symm
      refine ⟨m', t', mem', (GoesOn.single step fits Machine.others_of_tell).trans onward, there,
        sameDuty, samePast, sameRest, ?_, ended⟩
      rw [members]
      exact List.set_set _

variable (conduct) in
/-- All members of a task can be served to their ends. -/
theorem Thread.crew_can_end (here : m.threads[i]? = some t) (duty : t.duty = .worker pass job)
    (late : pass < i) (count : Nat) :
    ∃ (m' : Machine e) (t' : Thread e), GoesOn pass conduct i m m' ∧
      m'.threads[i]? = some t' ∧ t'.duty = t.duty ∧ t'.past = t.past ∧ t'.rest = t.rest ∧
      ∀ k mem, k < count → t'.members[k]? = some mem → mem.rest.ended?.isSome = true := by
  induction count with
  | zero =>
      refine ⟨m, t, .refl m, here, rfl, rfl, rfl, ?_⟩
      exact fun k _ low => absurd low (Nat.not_lt_zero k)
  | succ count ih =>
      obtain ⟨m', t', onward, there, sameDuty, samePast, sameRest, ended⟩ := ih
      cases next : t'.members[count]? with
      | none =>
          refine ⟨m', t', onward, there, sameDuty, samePast, sameRest, ?_⟩
          intro k mem low inside
          have outside := List.getElem?_eq_none_iff.mp next
          have bound := (List.getElem?_eq_some_iff.mp inside).1
          exact ended k mem (by omega) inside
      | some mem =>
          obtain ⟨m'', t'', mem', further, last, sameDuty', samePast', sameRest', members, done⟩ :=
            Member.can_end conduct rfl there (sameDuty.trans duty) late next
          refine ⟨m'', t'', onward.trans further, last, sameDuty'.trans sameDuty,
            samePast'.trans samePast, sameRest'.trans sameRest, ?_⟩
          intro k other low inside
          rw [members] at inside
          by_cases same : count = k
          · subst same
            rw [List.getElem?_set_self (List.getElem?_eq_some_iff.mp next).1] at inside
            rwa [← Option.some.inj inside]
          · rw [List.getElem?_set_ne same] at inside
            exact ended k other (by omega) inside

/-- Members that have all ended have an answer for their task. -/
theorem Settled.of_ended {members : List (Member e)}
    (ended : ∀ mem ∈ members, mem.rest.ended?.isSome = true) : ∃ r, Settled members r := by
  by_cases panicked : ∃ mem ∈ members, ∃ p, mem.rest = .panic p
  · obtain ⟨mem, inside, p, same⟩ := panicked
    exact ⟨.error p, mem, inside, same⟩
  · have replied : ∀ mem ∈ members, ∃ reply, mem.rest = .pure reply := by
      intro mem inside
      have done := ended mem inside
      cases same : mem.rest with
      | pure reply => exact ⟨reply, rfl⟩
      | panic p => exact absurd ⟨mem, inside, p, same⟩ panicked
      | ask q resume =>
          rw [same] at done
          cases done
    have listed : members.map (·.rest) ∈ Set.range (List.map Program.pure) := by
      rw [Set.range_list_map]
      intro rest inside
      obtain ⟨mem, isMember, rfl⟩ := List.mem_map.mp inside
      obtain ⟨reply, same⟩ := replied mem isMember
      exact ⟨reply, same.symm⟩
    obtain ⟨replies, same⟩ := listed
    exact ⟨.ok replies, same.symm⟩

/-- A worker goes on by one answer. -/
theorem Thread.worker_goesOn {q : Request} {resume : q.Answer → Program Output} {a : q.Answer}
    (here : m.threads[i]? = some t) (duty : t.duty = .worker pass job) (late : pass < i)
    (asks : t.rest = .ask q resume) (permits : m.Permits t.members q a)
    (governed : (conduct job.id).Governs ⟨i, t.duty, none, t.past, ⟨q, a⟩⟩) :
    GoesOn pass conduct i m (m.tell i (t.tell asks a) q) ∧
      (m.tell i (t.tell asks a) q).threads[i]? = some (t.tell asks a) := by
  have bound := (List.getElem?_eq_some_iff.mp here).1
  refine ⟨GoesOn.single (.tell here asks permits) ⟨.inr ⟨late, job, duty⟩, ?_⟩
    Machine.others_of_tell, Machine.getElem?_tell_self bound⟩
  intro job' same
  obtain ⟨_, rfl⟩ := Duty.worker.inj (duty.symm.trans same)
  exact governed

variable (conduct) in
/-- A worker can be brought to its end, while the other tasks wait. -/
theorem Thread.worker_can_end {p : Program Output} (rest : t.rest = p)
    (here : m.threads[i]? = some t) (duty : t.duty = .worker pass job) (late : pass < i) :
    ∃ (m' : Machine e) (t' : Thread e), GoesOn pass conduct i m m' ∧
      m'.threads[i]? = some t' ∧ t'.duty = t.duty ∧ t'.rest.ended?.isSome = true := by
  induction p generalizing m t with
  | pure output => exact ⟨m, t, .refl m, here, rfl, by rw [rest]; rfl⟩
  | panic p => exact ⟨m, t, .refl m, here, rfl, by rw [rest]; rfl⟩
  | ask q resume ih =>
      have allowed : WorkerAsks job t.past q := by
        have reached := t.sound
        rw [duty, rest] at reached
        exact job.program_heeds.reaches reached
      have onward {m₁ : Machine e} {t₁ : Thread e} (there : m₁.threads[i]? = some t₁)
          (sameDuty : t₁.duty = t.duty) (asks : t₁.rest = .ask q resume) (a : q.Answer)
          (permits : m₁.Permits t₁.members q a)
          (governed : (conduct job.id).Governs ⟨i, t₁.duty, none, t₁.past, ⟨q, a⟩⟩) :
          ∃ (m' : Machine e) (t' : Thread e), GoesOn pass conduct i m₁ m' ∧
            m'.threads[i]? = some t' ∧ t'.duty = t.duty ∧ t'.rest.ended?.isSome = true := by
        obtain ⟨first, now⟩ :=
          Thread.worker_goesOn there (sameDuty.trans duty) late asks permits governed
        obtain ⟨m', t', second, last, kept, ended⟩ := ih a rfl now (sameDuty.trans duty)
        exact ⟨m', t', first.trans second, last, kept.trans sameDuty, ended⟩
      have outside := Conduct.governs_answer (conduct job.id) i t.duty none t.past q
      cases q with
      | endpoints c => exact onward here rfl rest _ (fun b known => nomatch known) outside
      | isConnected endpoint =>
          exact onward here rfl rest _ (fun b known => nomatch known) outside
      | notify event => exact onward here rfl rest () (fun b known => nomatch known) outside
      | untrack id =>
          apply onward here rfl rest (m.shared.registry.untrack id).2
          · exact fun b known => Option.some.inj known
          · exact Conduct.governs_of_inside trivial
      | mark id expiry => exact onward here rfl rest () (fun _ _ => rfl) outside
      | together jobs =>
          -- First its members are served.
          obtain ⟨m₁, t₁, first, there, sameDuty, _, sameRest, ended⟩ :=
            Thread.crew_can_end conduct here duty late t.members.length
          have length : t₁.members.length = t.members.length := by
            have jobs := t₁.joint
            rw [sameRest, ← t.joint] at jobs
            simpa using congrArg List.length jobs
          obtain ⟨r, settled⟩ := Settled.of_ended fun mem inside => by
            obtain ⟨k, isMember⟩ := List.getElem?_of_mem inside
            have low := (List.getElem?_eq_some_iff.mp isMember).1
            exact ended k mem (length ▸ low) isMember
          obtain ⟨m', t', second, last, kept, done⟩ := onward there sameDuty
            (sameRest.trans rest) r settled (Conduct.governs_of_inside trivial)
          exact ⟨m', t', first.trans second, last, kept, done⟩
      | _ => exact allowed.elim

/-- A worker that has ended has an outcome, or it has panicked. -/
theorem Thread.exists_outcome (duty : t.duty = .worker pass job)
    (ended : t.rest.ended?.isSome = true) : ∃ r, t.outcome? = some r := by
  have met : job.program.Meets (fun _ _ => True) (fun _ _ => True)
      (fun _ r => ∀ output, r = .ok output → ∃ o, output = .outcome o) [] := by
    apply Program.Meets.bind
    apply (Engine.serveConnection_heeds job []).mono (fun _ _ _ => trivial)
    intro past r _
    cases r with
    | ok o => exact fun output same => ⟨o, (Except.ok.inj same).symm⟩
    | error p => exact fun output same => nomatch same
  have reached := t.sound
  rw [duty] at reached
  have now := met.reaches reached fun _ _ _ _ => trivial
  unfold Thread.outcome?
  cases rest : t.rest with
  | pure output =>
      rw [rest] at now
      obtain ⟨o, rfl⟩ := now output rfl
      exact ⟨_, rfl⟩
  | panic p => exact ⟨_, rfl⟩
  | ask q resume =>
      rw [rest] at ended
      cases ended

end TokenKeeper
