import TokenKeeper.Proofs.Call.Progress
import TokenKeeper.Proofs.Machine.Shares
import TokenKeeper.Proofs.Program.Alone

/-!
# Calls that run alone

While all other tasks wait, an acquisition or a pass and what it has started have the shared state
for themselves. An acquisition then goes the way that its program goes by itself: each of its
exchanges has the answer of the shared state as its own exchanges have left it, or that of the
policy or of the outside. So two acquisitions that start from the same and are told the same end
in the same way.
-/

namespace TokenKeeper

variable {e : Engine} {m m' m₀ : Machine e} {trace trace' later : List Label} {d : Deed} {c : Call}
variable {outside : Answerer} {conduct : ConnectionId → Conduct} {report : Bool}
variable {t t' : Thread e}

/-- Connections are lost in steps of their own. -/
theorem Run.alive (run : Run m trace m') (kept : ∀ c, .dropped c ∉ trace) : m'.alive = m.alive := by
  induction run with
  | refl => rfl
  | @snoc _ _ before l _ step ih =>
      rw [← ih fun c inside => kept c (List.mem_append_left _ inside)]
      cases l with
      | did d => exact step.alive
      | began c =>
          cases step
          rfl
      | dropped c => exact absurd (List.mem_append_right _ List.mem_cons_self) (kept c)

/-- The backoff is asked of the policy. -/
theorem Step.backoff {number : Nat} {error : IdentityError} {a : Except Panic Duration}
    (step : Step m (.did d) m') (asks : d.exchange = ⟨.backoff number error, a⟩) :
    a = e.policy.backoff number error := by
  cases step with
  | tell here asked permits =>
      cases asks
      exact permits
  | tellMember here inside asked permits =>
      cases asks
      exact permits

/-- The answers of the policy and of an outside. -/
def Engine.answering (e : Engine) (outside : Answerer) : Answerer
  | _, .backoff number error => e.policy.backoff number error
  | past, q => outside past q

namespace Program

/-- A program that has ended asks for nothing. -/
theorem request?_of_ended {α : Type} {p : Program α} (ended : p.ended?.isSome = true) :
    p.request? = none := by
  cases p with
  | ask q resume => cases ended
  | _ => rfl

/-- Pasts in which one answerer has given all the answers agree. -/
theorem agree_of_answers {answer : Answerer} {past past' : List Exchange}
    (answered : ∀ (earlier : List Exchange) (q : Request) (a : q.Answer) (rest : List Exchange),
      past = earlier ++ ⟨q, a⟩ :: rest → a = answer earlier q)
    (answered' : ∀ (earlier : List Exchange) (q : Request) (a : q.Answer) (rest : List Exchange),
      past' = earlier ++ ⟨q, a⟩ :: rest → a = answer earlier q) : Agree past past' :=
  fun earlier q a a' rest rest' cut cut' =>
    (answered earlier q a rest cut).trans (answered' earlier q a' rest' cut').symm

end Program

/-- A run in which a call begins and goes on, while all other tasks wait. -/
structure Lone (outside : Answerer) (conduct : ConnectionId → Conduct) (c : Call)
    (m₀ m : Machine e) (trace : List Label) : Prop where
  run : Run m₀ (.began c :: trace) m
  attended : Attended m₀.threads.length outside conduct trace

namespace Lone

/-- The part up to a deed, and the deed. -/
theorem cut (p : Lone outside conduct c m₀ m (trace ++ .did d :: later)) :
    ∃ before after, Lone outside conduct c m₀ before trace ∧ Step before (.did d) after ∧
      Run after later m := by
  obtain ⟨before, after, first, step, rest⟩ :=
    (show Run m₀ ((.began c :: trace) ++ .did d :: later) m from p.run).cut
  exact ⟨before, after, ⟨first, p.attended.left⟩, step, rest⟩

theorem alive (p : Lone outside conduct c m₀ m trace) : m.alive = m₀.alive := by
  refine p.run.alive fun c inside => ?_
  obtain ⟨d, same, _⟩ := p.attended _ ((List.mem_cons.mp inside).resolve_left nofun)
  cases same

/-- The task of the call. -/
theorem task (p : Lone outside conduct c m₀ m trace) :
    ∃ t, m.threads[m₀.threads.length]? = some t ∧ t.duty = .call c ∧
      t.past = trace.filterMap (Label.own? m₀.threads.length) := by
  obtain ⟨t, here, duty⟩ := p.run.begun
  refine ⟨t, here, duty, ?_⟩
  have past := p.run.pastOf (i := m₀.threads.length)
  rwa [Machine.pastOf_of_some here,
    Machine.pastOf_of_none (List.getElem?_eq_none_iff.mpr (Nat.le_refl _)), List.nil_append] at past

/-- What is known of the task of the call. -/
theorem known (p : Lone outside conduct c m₀ m trace)
    (here : m.threads[m₀.threads.length]? = some t) :
    t.duty = .call c ∧ t.past = trace.filterMap (Label.own? m₀.threads.length) := by
  obtain ⟨_, at_, duty, past⟩ := p.task
  obtain rfl := Option.some.inj (here.symm.trans at_)
  exact ⟨duty, past⟩

/-- Whoever else acts is a worker that the call has started. -/
theorem spawned (p : Lone outside conduct c m₀ m trace)
    (here : m.threads[m₀.threads.length]? = some t) (happened : .did d ∈ trace)
    (other : d.thread ≠ m₀.threads.length) :
    ∃ job, d.duty = .worker m₀.threads.length job ∧
      (⟨.spawnWorker job, ⟨d.thread⟩⟩ : Exchange) ∈ t.past := by
  obtain ⟨late, job, isWorker⟩ :=
    (p.attended.serves happened).fits.inPass.resolve_left other
  obtain ⟨worker, there, same⟩ := p.run.actor (List.mem_cons_of_mem (.began c) happened)
  obtain ⟨duty, member, past, spawned⟩ :=
    (p.run.history (Nat.le_of_lt late) there).origin _ _ (same.trans isWorker)
  have own := Deed.member_eq_none (p.run.sound spawned) rfl
  obtain ⟨t', rest, here', _, cut⟩ := p.run.recorded spawned own
  obtain rfl := Option.some.inj (here'.symm.trans here)
  refine ⟨job, isWorker, ?_⟩
  rw [cut]
  exact List.mem_append_right _ List.mem_cons_self

/-- The deeds of the task of a call. -/
theorem own_deed (p : Lone outside conduct c m₀ m trace) (happened : .did d ∈ trace)
    (number : d.thread = m₀.threads.length) : d.duty = .call c ∧ d.member = none := by
  have inside := List.mem_cons_of_mem (.began c) happened
  obtain ⟨t, here, duty, _⟩ := p.task
  obtain ⟨t', here', call⟩ := p.run.actor inside
  rw [number] at here'
  obtain rfl := Option.some.inj (here'.symm.trans here)
  exact ⟨call.symm.trans duty, p.run.own_of_call inside (call.symm.trans duty)⟩

/-- The deeds of an acquisition are its own. -/
theorem own (p : Lone outside conduct (.acquire report) m₀ m trace) (happened : .did d ∈ trace) :
    d.thread = m₀.threads.length ∧ d.duty = .call (.acquire report) ∧ d.member = none := by
  have number : d.thread = m₀.threads.length := by
    by_contra other
    obtain ⟨t, here, duty, _⟩ := p.task
    obtain ⟨job, _, spawned⟩ := p.spawned here happened other
    have asked := t.mayAsk spawned
    rw [duty] at asked
    exact asked
  exact ⟨number, p.own_deed happened number⟩

/-- The shared state is what the exchanges of the acquisition have made of it. -/
theorem replayed (p : Lone outside conduct (.acquire report) m₀ m trace) :
    m.shared = m₀.shared.replay m₀.alive (trace.filterMap (Label.own? m₀.threads.length)) := by
  induction trace using List.reverseRecOn generalizing m with
  | nil =>
      obtain ⟨middle, none, step⟩ :=
        (show Run m₀ ([] ++ [.began (.acquire report)]) m from p.run).last
      obtain rfl := none.eq_of_nil
      exact step.shared_of_began
  | append_singleton trace l ih =>
      obtain ⟨d, rfl, _⟩ := p.attended l (List.mem_append_right _ List.mem_cons_self)
      obtain ⟨before, after, first, step, rest⟩ := p.cut
      obtain rfl := rest.eq_of_nil
      obtain ⟨number, _, alone⟩ := p.own (List.mem_append_right _ List.mem_cons_self)
      have added : Label.own? m₀.threads.length (.did d) = some d.exchange := by
        obtain ⟨thread, duty, member, past, x⟩ := d
        obtain rfl : member = none := alone
        exact if_pos number
      rw [filterMap_snoc, added, Option.toList_some, Shared.replay_snoc, ← ih first, step.shared,
        first.alive]

/-- Every exchange of an acquisition has the answer that it has by itself. -/
theorem answered (p : Lone outside conduct (.acquire report) m₀ m trace)
    (here : m.threads[m₀.threads.length]? = some t) {earlier rest : List Exchange} {q : Request}
    {a : q.Answer} (past : t.past = earlier ++ ⟨q, a⟩ :: rest) :
    a = m₀.shared.answerer m₀.alive (e.answering outside) earlier q := by
  have deed := (p.run.history (Nat.le_refl _) here).own _ _ _ past
  obtain ⟨first, back, rfl⟩ :=
    List.append_of_mem ((List.mem_cons.mp deed).resolve_left nofun)
  obtain ⟨before, after, p', step, _⟩ := p.cut
  obtain ⟨_, duty, alone⟩ := p.own (List.mem_append_right _ List.mem_cons_self)
  have asked := step.sound.mayAsk alone
  rw [duty] at asked
  obtain ⟨t', there, _, known⟩ := step.actor
  obtain ⟨_, own⟩ := p'.known there
  have told := (p.attended.serves (List.mem_append_right _ List.mem_cons_self)).told rfl
  have state := p'.replayed
  rw [← own, (known rfl).1, ← p'.alive] at state
  have shared {b : q.Answer}
      (decided : (m₀.shared.replay before.alive earlier).answer? before.alive q = some b) :
      a = (((m₀.shared.replay before.alive earlier).answer? before.alive q).getD
        (e.answering outside earlier q)) := by
    rw [decided]
    exact step.answer rfl (state ▸ decided)
  rw [Shared.answerer, ← p'.alive]
  cases q with
  | now | sleep | getToken | notify => exact told trivial
  | backoff number error => exact step.backoff rfl
  | currentToken | username | setUsernameIfAbsent | offer => exact shared rfl
  | _ => exact asked.elim

/-- Two acquisitions that have ended have ended in the same way. -/
theorem same_acquisition (p : Lone outside conduct (.acquire report) m₀ m trace)
    (p' : Lone outside conduct (.acquire report) m₀ m' trace')
    (here : m.threads[m₀.threads.length]? = some t)
    (here' : m'.threads[m₀.threads.length]? = some t')
    (ended : t.rest.ended?.isSome = true) (ended' : t'.rest.ended?.isSome = true) :
    t.past = t'.past ∧ t.rest = t'.rest := by
  have reached := t.sound
  have reached' := t'.sound
  rw [(p.known here).1] at reached
  rw [(p'.known here').1] at reached'
  exact reached.same_end reached' (Program.request?_of_ended ended)
    (Program.request?_of_ended ended')
    (Program.agree_of_answers (fun _ _ _ _ => p.answered here) fun _ _ _ _ => p'.answered here')

/-- Wherever it is, an acquisition or a pass that runs alone can get to its end. -/
theorem can_end (p : Lone outside conduct c m₀ m trace) (plain : c.IsPlain) :
    ∃ (more : List Label) (m' : Machine e) (t' : Thread e),
      Lone outside conduct c m₀ m' (trace ++ more) ∧ Run m more m' ∧
        m'.threads[m₀.threads.length]? = some t' ∧ t'.rest.ended?.isSome = true := by
  obtain ⟨t, here, duty, _⟩ := p.task
  obtain ⟨more, m', t', onward, attended, last, ended⟩ :=
    p.run.plain_can_end outside conduct (Nat.le_refl _) here duty plain
  exact ⟨more, m', t', ⟨p.run.trans onward, p.attended.append attended⟩, onward, last, ended⟩

end Lone
end TokenKeeper
