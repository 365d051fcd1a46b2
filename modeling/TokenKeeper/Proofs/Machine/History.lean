import TokenKeeper.Proofs.Machine.Run

/-!
# What the tasks of a run have seen

Let every deed of a run satisfy some property. Then what the tasks of the run have been told
comes from deeds with that property: a task knows its own exchanges, it knows the replies to a
`together` from members whose exchanges are deeds as well, and a worker was started by a deed of
its pass. With "happened in this run" for the property this turns the exchanges of a task into
events of the run; with "answered as the endpoints behave" it ties a pass to their behaviour.
-/

namespace TokenKeeper

variable {P : Deed → Prop} {thread : Nat} {duty : Duty} {member : Option (Nat × EndpointJob)}
variable {past : List Exchange}

/-- Every exchange, with those before it, is a deed with the property. -/
def Told (P : Deed → Prop) (thread : Nat) (duty : Duty) (member : Option (Nat × EndpointJob))
    (past : List Exchange) : Prop :=
  ∀ earlier x later, past = earlier ++ x :: later → P ⟨thread, duty, member, earlier, x⟩

theorem told_nil : Told P thread duty member [] := by
  intro earlier x later none
  exact absurd none.symm (by simp)

theorem Told.snoc {x : Exchange} (told : Told P thread duty member past)
    (new : P ⟨thread, duty, member, past, x⟩) : Told P thread duty member (past ++ [x]) := by
  intro earlier y later cut
  rcases List.eq_nil_or_concat later with rfl | ⟨later, z, rfl⟩
  · obtain ⟨rfl, same⟩ := List.append_inj' cut rfl
    obtain rfl := List.singleton_inj.mp same
    exact new
  · rw [List.concat_eq_append, ← List.cons_append, ← List.append_assoc] at cut
    exact told earlier y later (List.append_inj' cut rfl).1

/-- An exchange of the past is a deed at some point. -/
theorem Told.of_mem {x : Exchange} (told : Told P thread duty member past) (inside : x ∈ past) :
    ∃ earlier later, past = earlier ++ x :: later ∧ P ⟨thread, duty, member, earlier, x⟩ := by
  obtain ⟨earlier, later, cut⟩ := List.append_of_mem inside
  exact ⟨earlier, later, cut, told earlier x later cut⟩

/-- The replies to a `together`, or the panic, come from members with such deeds. -/
def Gathered (e : Engine) (P : Deed → Prop) (thread : Nat) (duty : Duty)
    (jobs : List EndpointJob) : Except Panic (List AuthReply) → Prop
  | .ok replies => replies.length = jobs.length ∧
      ∀ j job reply, jobs[j]? = some job → replies[j]? = some reply →
        ∃ past, (Engine.serveEndpoint job e.policy.immediateRetries).Reaches past (.pure reply) ∧
          Told P thread duty (some (j, job)) past
  | .error p => ∃ j job past, jobs[j]? = some job ∧
      (Engine.serveEndpoint job e.policy.immediateRetries).Reaches past (.panic p) ∧
        Told P thread duty (some (j, job)) past

variable {e : Engine}

/-- What a task has seen comes from deeds with the property. -/
structure Thread.Kept (P : Deed → Prop) (i : Nat) (t : Thread e) : Prop where
  own : Told P i t.duty none t.past
  members : ∀ j mem, t.members[j]? = some mem → Told P i t.duty (some (j, mem.job)) mem.past
  gathered : ∀ jobs replies, (⟨.together jobs, replies⟩ : Exchange) ∈ t.past →
    Gathered e P i t.duty jobs replies
  origin : ∀ pass job, t.duty = .worker pass job →
    ∃ duty member past, P ⟨pass, duty, member, past, ⟨.spawnWorker job, ⟨i⟩⟩⟩

/-- Settled members have gathered the answer. -/
theorem Settled.gathered {members : List (Member e)} {replies : Except Panic (List AuthReply)}
    (settled : Settled members replies)
    (told : ∀ j mem, members[j]? = some mem → Told P thread duty (some (j, mem.job)) mem.past) :
    Gathered e P thread duty (members.map (·.job)) replies := by
  cases replies with
  | ok replies =>
      refine ⟨?length, ?each⟩
      case length =>
        rw [List.length_map]
        have same := congrArg List.length settled
        rwa [List.length_map, List.length_map, eq_comm] at same
      case each =>
        intro j job reply isJob isReply
        rw [List.getElem?_map, Option.map_eq_some_iff] at isJob
        obtain ⟨mem, here, rfl⟩ := isJob
        have ended : some mem.rest = some (.pure reply) := by
          have same := congrArg (·[j]?) settled
          simpa only [List.getElem?_map, here, isReply, Option.map_some] using same
        exact ⟨mem.past, Option.some.inj ended ▸ mem.sound, told j mem here⟩
  | error p =>
      obtain ⟨mem, inside, panicked⟩ := settled
      obtain ⟨j, here⟩ := List.getElem?_of_mem inside
      exact ⟨j, mem.job, mem.past, by rw [List.getElem?_map, here]; rfl, panicked ▸ mem.sound,
        told j mem here⟩

namespace Thread.Kept

variable {i : Nat} {t : Thread e}

theorem start (origin : ∀ pass job, duty = .worker pass job →
    ∃ duty member past, P ⟨pass, duty, member, past, ⟨.spawnWorker job, ⟨i⟩⟩⟩) :
    (Thread.start duty : Thread e).Kept P i where
  own := told_nil
  members := by
    intro j mem here
    simp only [Thread.start, Thread.crew, List.getElem?_map, Option.map_eq_some_iff] at here
    obtain ⟨job, _, rfl⟩ := here
    exact told_nil
  gathered := fun _ _ inside => absurd inside List.not_mem_nil
  origin := origin

theorem tell {m : Machine e} {q : Request} {resume : q.Answer → Program Output} {a : q.Answer}
    (kept : t.Kept P i) (asks : t.rest = .ask q resume) (permits : m.Permits t.members q a)
    (new : P ⟨i, t.duty, none, t.past, ⟨q, a⟩⟩) : (t.tell asks a).Kept P i where
  own := kept.own.snoc new
  members := by
    intro j mem here
    simp only [Thread.tell, Thread.crew, List.getElem?_map, Option.map_eq_some_iff] at here
    obtain ⟨job, _, rfl⟩ := here
    exact told_nil
  gathered := by
    intro jobs replies inside
    rcases List.mem_append.mp inside with earlier | now
    · exact kept.gathered jobs replies earlier
    · obtain ⟨rfl, same⟩ := Exchange.mk.inj (List.mem_singleton.mp now)
      obtain rfl := eq_of_heq same
      have waits : t.members.map (·.job) = jobs := by rw [t.joint, asks]; rfl
      have gathered := Settled.gathered permits kept.members
      rw [waits] at gathered
      exact gathered
  origin := kept.origin

theorem tellMember {j : Nat} {mem : Member e} {q : Request}
    {resume : q.Answer → Program AuthReply} {a : q.Answer} (kept : t.Kept P i)
    (inside : t.members[j]? = some mem) (asks : mem.rest = .ask q resume)
    (new : P ⟨i, t.duty, some (j, mem.job), mem.past, ⟨q, a⟩⟩) :
    (t.tellMember inside asks a).Kept P i where
  own := kept.own
  members := by
    intro k other here
    by_cases same : j = k
    · subst same
      have bound := (List.getElem?_eq_some_iff.mp inside).1
      simp only [Thread.tellMember, List.getElem?_set_self bound, Option.some.injEq] at here
      subst here
      exact (kept.members j mem inside).snoc new
    · simp only [Thread.tellMember, List.getElem?_set_ne same] at here
      exact kept.members k other here
  gathered := kept.gathered
  origin := kept.origin

end Thread.Kept

namespace Machine

variable {m : Machine e}

/-- A task after a step is the one that acted, an old one, or a new one. -/
theorem getElem?_tell {i k : Nat} {t t' : Thread e} {q : Request} (inside : i < m.threads.length)
    (here : (m.tell i t q).threads[k]? = some t') :
    k = i ∧ t' = t ∨ k ≠ i ∧ m.threads[k]? = some t' ∨
      ∃ duty, q.started i = [duty] ∧ k = m.threads.length ∧ t' = .start duty := by
  simp only [Machine.tell] at here
  by_cases old : k < m.threads.length
  · rw [List.getElem?_append_left (by rwa [List.length_set])] at here
    by_cases same : i = k
    · subst same
      rw [List.getElem?_set_self inside] at here
      exact .inl ⟨rfl, (Option.some.inj here).symm⟩
    · rw [List.getElem?_set_ne same] at here
      exact .inr (.inl ⟨Ne.symm same, here⟩)
  · rw [List.getElem?_append_right (by rw [List.length_set]; omega), List.length_set,
      List.getElem?_map, Option.map_eq_some_iff] at here
    obtain ⟨duty, started, rfl⟩ := here
    have single : q.started i = [duty] ∧ k - m.threads.length = 0 := by
      unfold Request.started at started ⊢
      split at started
      · rw [List.getElem?_singleton] at started
        split at started
        · exact ⟨by rw [← Option.some.inj started], by assumption⟩
        · cases started
      · rw [List.getElem?_singleton] at started
        split at started
        · exact ⟨by rw [← Option.some.inj started], by assumption⟩
        · cases started
      · cases started
    exact .inr (.inr ⟨duty, single.1, by omega, rfl⟩)

/-- The tasks from a number on have seen only deeds with the property. -/
def Kept (P : Deed → Prop) (first : Nat) (m : Machine e) : Prop :=
  ∀ i t, first ≤ i → m.threads[i]? = some t → t.Kept P i

end Machine

section run

variable {m m' : Machine e} {trace : List Label} {l : Label} {first : Nat}

/-- A worker is started under the next number. -/
theorem Machine.Permits.number {members : List (Member e)} {q : Request} {a : q.Answer} {i : Nat}
    {pass : Nat} {job : ConnectionJob} (permits : m.Permits members q a)
    (started : q.started i = [.worker pass job]) :
    pass = i ∧ (⟨q, a⟩ : Exchange) = ⟨.spawnWorker job, ⟨m.threads.length⟩⟩ := by
  cases q with
  | spawnWorker other =>
      obtain ⟨rfl, rfl⟩ := Duty.worker.inj (List.singleton_inj.mp started)
      obtain rfl := permits
      exact ⟨rfl, rfl⟩
  | spawnCheck => cases List.singleton_inj.mp started
  | _ => cases started

theorem Step.kept (step : Step m l m') (kept : m.Kept P first)
    (holds : ∀ d, l = .did d → P d) : m'.Kept P first := by
  intro k t' low here
  cases step with
  | begin c =>
      by_cases old : k < m.threads.length
      · rw [List.getElem?_append_left old] at here
        exact kept k t' low here
      · rw [List.getElem?_append_right (by omega), List.getElem?_singleton] at here
        split at here
        · obtain rfl := Option.some.inj here
          exact .start fun _ _ same => nomatch same
        · cases here
  | @tell i t q resume a now asks permits =>
      have bound := (List.getElem?_eq_some_iff.mp now).1
      rcases Machine.getElem?_tell bound here with
        ⟨rfl, rfl⟩ | ⟨_, here⟩ | ⟨duty, started, rfl, rfl⟩
      · exact (kept k t low now).tell asks permits (holds _ rfl)
      · exact kept k t' low here
      · refine .start fun pass job same => ?_
        subst same
        obtain ⟨rfl, spawned⟩ := permits.number started
        exact ⟨_, _, _, spawned ▸ holds _ rfl⟩
  | @tellMember i j t mem q resume a now inside asks permits =>
      have bound := (List.getElem?_eq_some_iff.mp now).1
      rcases Machine.getElem?_tell bound here with
        ⟨rfl, rfl⟩ | ⟨_, here⟩ | ⟨duty, started, rfl, rfl⟩
      · exact (kept k t low now).tellMember inside asks (holds _ rfl)
      · exact kept k t' low here
      · refine .start fun pass job same => ?_
        subst same
        obtain ⟨rfl, spawned⟩ := permits.number started
        exact ⟨_, _, _, spawned ▸ holds _ rfl⟩
  | drop c => exact kept k t' low here

/-- What the tasks that began in a run have seen comes from its deeds. -/
theorem Run.kept (run : Run m trace m') (holds : ∀ d, .did d ∈ trace → P d) :
    m'.Kept P m.threads.length := by
  induction run with
  | refl =>
      intro i t low here
      exact absurd (List.getElem?_eq_some_iff.mp here).1 (Nat.not_lt.mpr low)
  | @snoc _ _ before l _ step ih =>
      refine step.kept (ih fun d inside => holds d (List.mem_append_left _ inside)) ?_
      rintro d rfl
      exact holds d (List.mem_append_right _ (List.mem_singleton.mpr rfl))

variable {i : Nat} {t : Thread e}

/-- What a task that began in a run has seen are deeds of the run. -/
theorem Run.history (run : Run m trace m') (low : m.threads.length ≤ i)
    (here : m'.threads[i]? = some t) : t.Kept (fun d => .did d ∈ trace) i :=
  run.kept (fun _ inside => inside) i t low here

/-- Each exchange of a task that began in a run is a deed of the run. -/
theorem Run.deed_of_past {x : Exchange} (run : Run m trace m') (low : m.threads.length ≤ i)
    (here : m'.threads[i]? = some t) (inside : x ∈ t.past) :
    ∃ past, .did ⟨i, t.duty, none, past, x⟩ ∈ trace := by
  obtain ⟨past, _, _, deed⟩ := (run.history low here).own.of_mem inside
  exact ⟨past, deed⟩

/-- What the task of a step has asked before it did so earlier in the run. -/
theorem Run.deed_before {m'' : Machine e} {d : Deed} {earlier later : List Exchange} {x : Exchange}
    (run : Run m trace m') (step : Step m' (.did d) m'') (low : m.threads.length ≤ d.thread)
    (own : d.member = none) (cut : d.past = earlier ++ x :: later) :
    .did ⟨d.thread, d.duty, none, earlier, x⟩ ∈ trace := by
  obtain ⟨t, here, duty, known⟩ := step.actor
  rw [← duty]
  exact (run.history low here).own earlier x later ((known own).1.trans cut)

end run
end TokenKeeper
