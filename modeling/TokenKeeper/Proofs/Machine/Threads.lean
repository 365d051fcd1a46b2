import TokenKeeper.Proofs.Machine.History

/-!
# Tasks over time

A task keeps its number, its duty and its past, to which it can only add, and a task that has
ended does not change any more. So a deed can be read off the past of its task ever after, a task
that was started for a connection is still there, and what was gathered from a worker is how it
ended for good.
-/

namespace TokenKeeper

variable {e : Engine}

namespace Thread

/-- A task and the same task later. -/
structure Grows (t t' : Thread e) : Prop where
  duty : t'.duty = t.duty
  past : ∃ later, t'.past = t.past ++ later
  ended : t.rest.ended?.isSome = true → t' = t

variable {t t' t'' : Thread e}

theorem Grows.refl (t : Thread e) : t.Grows t := ⟨rfl, ⟨[], by simp⟩, fun _ => rfl⟩

theorem Grows.trans (first : t.Grows t') (second : t'.Grows t'') : t.Grows t'' where
  duty := second.duty.trans first.duty
  past := by
    obtain ⟨l, here⟩ := first.past
    obtain ⟨l', there⟩ := second.past
    exact ⟨l ++ l', by rw [there, here, List.append_assoc]⟩
  ended := by
    intro done
    obtain rfl := first.ended done
    exact second.ended done

theorem grows_tell {q : Request} {resume : q.Answer → Program Output}
    (asks : t.rest = .ask q resume) (a : q.Answer) : t.Grows (t.tell asks a) where
  duty := rfl
  past := ⟨_, rfl⟩
  ended := by
    intro done
    rw [asks] at done
    cases done

/-- A task that has ended waits for nobody. -/
theorem members_of_ended (done : t.rest.ended?.isSome = true) : t.members = [] := by
  have none : t.rest.jobs = [] := by
    cases same : t.rest with
    | ask => rw [same] at done; cases done
    | _ => rfl
  exact List.map_eq_nil_iff.mp (t.joint.trans none)

theorem grows_tellMember {j : Nat} {mem : Member e} {q : Request}
    {resume : q.Answer → Program AuthReply} (inside : t.members[j]? = some mem)
    (asks : mem.rest = .ask q resume) (a : q.Answer) : t.Grows (t.tellMember inside asks a) where
  duty := rfl
  past := ⟨[], (List.append_nil _).symm⟩
  ended := by
    intro done
    rw [members_of_ended done] at inside
    cases inside

/-- A worker with an outcome has ended. -/
theorem ended_of_outcome? {r : Except Panic ConnectionOutcome} (h : t.outcome? = some r) :
    t.rest.ended?.isSome = true := by
  unfold outcome? at h
  split at h
  · rename_i same
    rw [same]
    rfl
  · rename_i same
    rw [same]
    rfl
  · cases h

end Thread

section steps

variable {m m' : Machine e} {trace : List Label} {l : Label} {i : Nat} {t : Thread e}

theorem Machine.getElem?_tell_self {q : Request} (inside : i < m.threads.length) :
    (m.tell i t q).threads[i]? = some t := by
  rw [Machine.tell, List.getElem?_append_left (by rwa [List.length_set]),
    List.getElem?_set_self inside]

theorem Machine.getElem?_tell_of_ne {q : Request} {k : Nat} {t' : Thread e}
    (here : m.threads[k]? = some t') (other : i ≠ k) :
    (m.tell i t q).threads[k]? = some t' := by
  have inside := (List.getElem?_eq_some_iff.mp here).1
  rw [Machine.tell, List.getElem?_append_left (by rwa [List.length_set]),
    List.getElem?_set_ne other, here]

/-- In a step every task stays the same or grows. -/
theorem Step.grows (step : Step m l m') (here : m.threads[i]? = some t) :
    ∃ t', m'.threads[i]? = some t' ∧ t.Grows t' := by
  have inside := (List.getElem?_eq_some_iff.mp here).1
  cases step with
  | begin c => exact ⟨t, by rw [List.getElem?_append_left inside, here], .refl t⟩
  | @tell k other q resume a now asks permits =>
      by_cases same : k = i
      · subst same
        obtain rfl := Option.some.inj (now.symm.trans here)
        exact ⟨_, Machine.getElem?_tell_self inside, Thread.grows_tell asks a⟩
      · exact ⟨t, Machine.getElem?_tell_of_ne here same, .refl t⟩
  | @tellMember k j other mem q resume a now within asks permits =>
      by_cases same : k = i
      · subst same
        obtain rfl := Option.some.inj (now.symm.trans here)
        exact ⟨_, Machine.getElem?_tell_self inside, Thread.grows_tellMember within asks a⟩
      · exact ⟨t, Machine.getElem?_tell_of_ne here same, .refl t⟩
  | drop c => exact ⟨t, here, .refl t⟩

theorem Run.grows (run : Run m trace m') (here : m.threads[i]? = some t) :
    ∃ t', m'.threads[i]? = some t' ∧ t.Grows t' := by
  induction run with
  | refl => exact ⟨t, here, .refl t⟩
  | snoc _ step ih =>
      obtain ⟨_, middle, first⟩ := ih
      obtain ⟨t', last, second⟩ := step.grows middle
      exact ⟨t', last, first.trans second⟩

/-- The first call of a run has the first new number. -/
theorem Run.begun {c : Call} (run : Run m (.began c :: trace) m') :
    ∃ t, m'.threads[m.threads.length]? = some t ∧ t.duty = .call c := by
  obtain ⟨before, after, none, step, rest⟩ := (show Run m ([] ++ .began c :: trace) m' from run).cut
  obtain rfl := none.eq_of_nil
  have started : after.threads[before.threads.length]? = some (.start (.call c)) := by
    cases step
    rw [List.getElem?_append_right (Nat.le_refl _), Nat.sub_self]
    rfl
  obtain ⟨t, last, grows⟩ := rest.grows started
  exact ⟨t, last, grows.duty⟩

variable {d : Deed}

/-- A deed of the task itself is the latest in its past. -/
theorem Step.recorded (step : Step m (.did d) m') (own : d.member = none) :
    ∃ t, m'.threads[d.thread]? = some t ∧ t.duty = d.duty ∧ t.past = d.past ++ [d.exchange] := by
  cases step with
  | @tell i t q resume a here asks permits =>
      have inside := (List.getElem?_eq_some_iff.mp here).1
      exact ⟨_, Machine.getElem?_tell_self inside, rfl, rfl⟩
  | tellMember => cases own

/-- A deed can be read off the past of its task ever after. -/
theorem Run.recorded (run : Run m trace m') (happened : .did d ∈ trace) (own : d.member = none) :
    ∃ t later, m'.threads[d.thread]? = some t ∧ t.duty = d.duty ∧
      t.past = d.past ++ d.exchange :: later := by
  obtain ⟨earlier, later, rfl⟩ := List.append_of_mem happened
  obtain ⟨before, after, _, step, rest⟩ := run.cut
  obtain ⟨t, here, duty, past⟩ := step.recorded own
  obtain ⟨t', last, grows⟩ := rest.grows here
  obtain ⟨more, now⟩ := grows.past
  exact ⟨t', more, last, grows.duty.trans duty, by rw [now, past, List.append_assoc]; rfl⟩

/-- The task of a deed is there ever after. -/
theorem Run.actor (run : Run m trace m') (happened : .did d ∈ trace) :
    ∃ t, m'.threads[d.thread]? = some t ∧ t.duty = d.duty := by
  obtain ⟨earlier, later, rfl⟩ := List.append_of_mem happened
  obtain ⟨before, after, _, step, rest⟩ := run.cut
  obtain ⟨t, here, duty, _⟩ := step.actor
  obtain ⟨t', last, grows⟩ := ((Run.single step).trans rest).grows here
  exact ⟨t', last, grows.duty.trans duty⟩

/-- In a step a task keeps its past, or it adds the exchange of the step. -/
theorem Step.past (step : Step m l m') (here : m.threads[i]? = some t) :
    ∃ t', m'.threads[i]? = some t' ∧ t'.duty = t.duty ∧
      (t'.past = t.past ∨
        ∃ x, l = .did ⟨i, t.duty, none, t.past, x⟩ ∧ t'.past = t.past ++ [x]) := by
  have inside := (List.getElem?_eq_some_iff.mp here).1
  cases step with
  | begin c => exact ⟨t, by rw [List.getElem?_append_left inside, here], rfl, .inl rfl⟩
  | @tell k other q resume a now asks permits =>
      by_cases same : k = i
      · subst same
        obtain rfl := Option.some.inj (now.symm.trans here)
        exact ⟨_, Machine.getElem?_tell_self inside, rfl, .inr ⟨⟨q, a⟩, rfl, rfl⟩⟩
      · exact ⟨t, Machine.getElem?_tell_of_ne here same, rfl, .inl rfl⟩
  | @tellMember k j other mem q resume a now within asks permits =>
      by_cases same : k = i
      · subst same
        obtain rfl := Option.some.inj (now.symm.trans here)
        exact ⟨_, Machine.getElem?_tell_self inside, rfl, .inl rfl⟩
      · exact ⟨t, Machine.getElem?_tell_of_ne here same, rfl, .inl rfl⟩
  | drop c => exact ⟨t, here, rfl, .inl rfl⟩

/-- What a task has added to its past in a run are deeds of the run. -/
theorem Run.deed_since {t' : Thread e} {earlier later : List Exchange} {x : Exchange}
    (run : Run m trace m') (here : m.threads[i]? = some t) (there : m'.threads[i]? = some t')
    (cut : t'.past = t.past ++ earlier ++ x :: later) :
    .did ⟨i, t.duty, none, t.past ++ earlier, x⟩ ∈ trace := by
  induction run generalizing t' later with
  | refl =>
      obtain rfl := Option.some.inj (here.symm.trans there)
      have length := congrArg List.length cut
      simp only [List.length_append, List.length_cons] at length
      omega
  | snoc run step ih =>
      obtain ⟨middle, before, grows⟩ := run.grows here
      obtain ⟨after, now, _, kept⟩ := step.past before
      obtain rfl := Option.some.inj (now.symm.trans there)
      rcases kept with same | ⟨y, rfl, added⟩
      · exact List.mem_append_left _ (ih before (same.symm.trans cut))
      · rw [added] at cut
        rcases List.eq_nil_or_concat later with rfl | ⟨later, z, rfl⟩
        · obtain ⟨past, single⟩ := List.append_inj' cut rfl
          obtain rfl := List.singleton_inj.mp single
          rw [← past, ← grows.duty]
          exact List.mem_append_right _ List.mem_cons_self
        · rw [List.concat_eq_append, ← List.cons_append, ← List.append_assoc] at cut
          exact List.mem_append_left _ (ih before (List.append_inj' cut rfl).1)

/-- The moment at which a task added an exchange to its past. -/
theorem Run.moment {t' : Thread e} {earlier later : List Exchange} {x : Exchange}
    (run : Run m trace m') (here : m.threads[i]? = some t) (there : m'.threads[i]? = some t')
    (cut : t'.past = t.past ++ earlier ++ x :: later) :
    ∃ first rest before after,
      trace = first ++ .did ⟨i, t.duty, none, t.past ++ earlier, x⟩ :: rest ∧ Run m first before ∧
        Step before (.did ⟨i, t.duty, none, t.past ++ earlier, x⟩) after ∧ Run after rest m' := by
  obtain ⟨first, rest, rfl⟩ := List.append_of_mem (run.deed_since here there cut)
  obtain ⟨before, after, start, step, onward⟩ := run.cut
  exact ⟨first, rest, before, after, rfl, start, step, onward⟩

/-- A task keeps the duty that it had in a deed. -/
theorem Run.duty_after {m₀ m₁ : Machine e} (step : Step m₀ (.did d) m₁) (rest : Run m₁ trace m)
    (here : m.threads[d.thread]? = some t) : t.duty = d.duty := by
  obtain ⟨t', there, duty⟩ := ((Run.single step).trans rest).actor (List.mem_append_left _
    List.mem_cons_self)
  obtain rfl := Option.some.inj (there.symm.trans here)
  exact duty

/-- The moment at which a task added an exchange to its past, some time after a deed of it. -/
theorem Run.moment_after {m₀ m₁ : Machine e} {duty : Duty} {earlier past tail : List Exchange}
    {x y : Exchange} (step : Step m₀ (.did ⟨i, duty, none, earlier, x⟩) m₁)
    (rest : Run m₁ trace m) (here : m.threads[i]? = some t) (began : earlier ++ [x] <+: past)
    (cut : t.past = past ++ y :: tail) :
    ∃ first back before after, trace = first ++ .did ⟨i, duty, none, past, y⟩ :: back ∧
      Run m₁ first before ∧ Step before (.did ⟨i, duty, none, past, y⟩) after ∧
        Run after back m := by
  obtain ⟨t₁, here₁, duty₁, past₁⟩ := step.recorded rfl
  obtain ⟨since, rfl⟩ := began
  rw [show earlier ++ [x] = t₁.past from past₁.symm] at cut ⊢
  rw [show duty = t₁.duty from duty₁.symm]
  exact rest.moment here₁ here cut

/-- A worker has a higher number than the task that started it. -/
theorem Run.spawned_later {job : ConnectionJob} {w : WorkerId} (run : Run m trace m')
    (happened : .did d ∈ trace) (spawns : d.exchange = ⟨.spawnWorker job, w⟩) :
    d.thread < w.number := by
  obtain ⟨earlier, later, rfl⟩ := List.append_of_mem happened
  obtain ⟨before, after, _, step, _⟩ := run.cut
  cases step with
  | @tell i t q resume a here asks permits =>
      obtain ⟨rfl, same⟩ := Exchange.mk.inj spawns
      obtain rfl := eq_of_heq same
      obtain rfl := permits
      exact (List.getElem?_eq_some_iff.mp here).1
  | @tellMember i j t mem q resume a here inside asks permits =>
      obtain ⟨rfl, same⟩ := Exchange.mk.inj spawns
      obtain rfl := eq_of_heq same
      obtain rfl := permits
      exact (List.getElem?_eq_some_iff.mp here).1

/-- A worker that was started is there, for its pass and its connection. -/
theorem Run.spawned {job : ConnectionJob} {w : WorkerId} (run : Run m trace m')
    (happened : .did d ∈ trace) (spawns : d.exchange = ⟨.spawnWorker job, w⟩) :
    m.threads.length ≤ w.number ∧
      ∃ t, m'.threads[w.number]? = some t ∧ t.duty = .worker d.thread job := by
  obtain ⟨earlier, later, rfl⟩ := List.append_of_mem happened
  obtain ⟨before, after, first, step, rest⟩ := run.cut
  have started {i : Nat} {t : Thread e} : (before.tell i t (.spawnWorker job)).threads[
      before.threads.length]? = some (.start (.worker i job)) := by
    rw [Machine.tell, List.getElem?_append_right (by simp), List.length_set, Nat.sub_self]
    rfl
  cases step with
  | @tell i t q resume a here asks permits =>
      obtain ⟨rfl, same⟩ := Exchange.mk.inj spawns
      obtain rfl := eq_of_heq same
      obtain rfl := permits
      obtain ⟨t', last, grows⟩ := rest.grows started
      exact ⟨first.length_le, t', last, grows.duty⟩
  | @tellMember i j t mem q resume a here inside asks permits =>
      obtain ⟨rfl, same⟩ := Exchange.mk.inj spawns
      obtain rfl := eq_of_heq same
      obtain rfl := permits
      obtain ⟨t', last, grows⟩ := rest.grows started
      exact ⟨first.length_le, t', last, grows.duty⟩

/-- A worker that was waited for has ended, with that outcome. -/
theorem Run.joined {w : WorkerId} {r : Except Panic ConnectionOutcome} (run : Run m trace m')
    (happened : .did d ∈ trace) (joins : d.exchange = ⟨.joinWorker w, r⟩) :
    ∃ t, m'.threads[w.number]? = some t ∧ t.outcome? = some r := by
  obtain ⟨earlier, later, rfl⟩ := List.append_of_mem happened
  obtain ⟨before, after, _, step, rest⟩ := run.cut
  have found : ∃ t, before.threads[w.number]? = some t ∧ t.outcome? = some r := by
    cases step with
    | tell here asks permits =>
        obtain ⟨rfl, same⟩ := Exchange.mk.inj joins
        obtain rfl := eq_of_heq same
        exact permits
    | tellMember here inside asks permits =>
        obtain ⟨rfl, same⟩ := Exchange.mk.inj joins
        obtain rfl := eq_of_heq same
        exact permits
  obtain ⟨t, here, outcome⟩ := found
  obtain ⟨t', last, grows⟩ := ((Run.single step).trans rest).grows here
  obtain rfl := grows.ended (Thread.ended_of_outcome? outcome)
  exact ⟨t', last, outcome⟩

end steps
end TokenKeeper
