import TokenKeeper.Proofs.Machine.Threads

/-!
# Flags that one task at a time can raise

The gate of the checks and the lock of the heartbeat are flags of the shared state. A task raises
such a flag with one exchange and lowers it with another one, and nothing else changes it. So the
flag is up exactly while there is a task that has raised it and not yet lowered it, and there is
never more than one such task.
-/

namespace TokenKeeper

variable {e : Engine} {m m' : Machine e} {trace : List Label} {l : Label} {d : Deed} {i : Nat}
variable {Q : Duty → List Exchange → Prop}

/-- There is a task under this number, and its duty and its past are so. -/
def Machine.Has (m : Machine e) (Q : Duty → List Exchange → Prop) (i : Nat) : Prop :=
  ∃ t, m.threads[i]? = some t ∧ Q t.duty t.past

namespace Step

/-- Before a deed its task has the past of the deed. -/
theorem has_actor (step : Step m (.did d) m') (own : d.member = none) :
    m.Has Q d.thread ↔ Q d.duty d.past := by
  obtain ⟨t, here, duty, past⟩ := step.actor
  obtain ⟨past, _⟩ := past own
  constructor
  · rintro ⟨t', there, holds⟩
    obtain rfl := Option.some.inj (there.symm.trans here)
    rwa [duty, past] at holds
  · intro holds
    exact ⟨t, here, by rwa [duty, past]⟩

/-- After a deed its task has the past of the deed and the exchange. -/
theorem has_self (step : Step m (.did d) m') (own : d.member = none) :
    m'.Has Q d.thread ↔ Q d.duty (d.past ++ [d.exchange]) := by
  obtain ⟨t, here, duty, past⟩ := step.recorded own
  constructor
  · rintro ⟨t', there, holds⟩
    obtain rfl := Option.some.inj (there.symm.trans here)
    rwa [duty, past] at holds
  · intro holds
    exact ⟨t, here, by rwa [duty, past]⟩

/-- What does not hold of a task that has done nothing holds after a step where it held before,
apart from the task that went on. -/
theorem has_iff_of_ne (step : Step m l m') (unbegun : ∀ duty, ¬ Q duty [])
    (other : ∀ d, l = .did d → d.member = none → d.thread ≠ i) : m'.Has Q i ↔ m.Has Q i := by
  constructor
  · rintro ⟨t', here, holds⟩
    cases step with
    | begin c =>
        by_cases old : i < m.threads.length
        · rw [List.getElem?_append_left old] at here
          exact ⟨t', here, holds⟩
        · rw [List.getElem?_append_right (by omega), List.getElem?_singleton] at here
          split at here
          · obtain rfl := Option.some.inj here
            exact absurd holds (unbegun _)
          · cases here
    | @tell k t q resume a now asks permits =>
        have bound := (List.getElem?_eq_some_iff.mp now).1
        rcases Machine.getElem?_tell bound here with
          ⟨same, _⟩ | ⟨_, here⟩ | ⟨duty, _, _, rfl⟩
        · exact absurd same.symm (other _ rfl rfl)
        · exact ⟨t', here, holds⟩
        · exact absurd holds (unbegun _)
    | @tellMember k j t mem q resume a now inside asks permits =>
        have bound := (List.getElem?_eq_some_iff.mp now).1
        rcases Machine.getElem?_tell bound here with
          ⟨rfl, rfl⟩ | ⟨_, here⟩ | ⟨duty, _, _, rfl⟩
        · exact ⟨t, now, holds⟩
        · exact ⟨t', here, holds⟩
        · exact absurd holds (unbegun _)
    | drop c => exact ⟨t', here, holds⟩
  · rintro ⟨t, here, holds⟩
    have bound := (List.getElem?_eq_some_iff.mp here).1
    cases step with
    | begin c => exact ⟨t, by rw [List.getElem?_append_left bound, here], holds⟩
    | @tell k other' q resume a now asks permits =>
        exact ⟨t, Machine.getElem?_tell_of_ne here (other _ rfl rfl), holds⟩
    | @tellMember k j t₁ mem q resume a now inside asks permits =>
        by_cases same : k = i
        · subst same
          obtain rfl := Option.some.inj (now.symm.trans here)
          exact ⟨_, Machine.getElem?_tell_self bound, holds⟩
        · exact ⟨t, Machine.getElem?_tell_of_ne here same, holds⟩
    | drop c => exact ⟨t, here, holds⟩

/-- A step changes nothing if it makes no difference for the task that goes on. -/
theorem has_iff (step : Step m l m') (unbegun : ∀ duty, ¬ Q duty [])
    (steady : ∀ d, l = .did d → d.member = none →
      (Q d.duty (d.past ++ [d.exchange]) ↔ Q d.duty d.past)) : m'.Has Q i ↔ m.Has Q i := by
  by_cases own : ∃ d, l = .did d ∧ d.member = none ∧ d.thread = i
  · obtain ⟨d, rfl, own, rfl⟩ := own
    rw [step.has_self own, step.has_actor own]
    exact steady d rfl own
  · exact step.has_iff_of_ne unbegun fun d here none same => own ⟨d, here, none, same⟩

/-- A step keeps what the task that goes on keeps. -/
theorem has_mono (step : Step m l m') (unbegun : ∀ duty, ¬ Q duty [])
    (keeps : ∀ d, l = .did d → d.member = none → Q d.duty d.past →
      Q d.duty (d.past ++ [d.exchange])) (h : m.Has Q i) : m'.Has Q i := by
  by_cases own : ∃ d, l = .did d ∧ d.member = none ∧ d.thread = i
  · obtain ⟨d, rfl, own, rfl⟩ := own
    exact (step.has_self own).mpr (keeps d rfl own ((step.has_actor own).mp h))
  · exact (step.has_iff_of_ne unbegun fun d here none same => own ⟨d, here, none, same⟩).mpr h

end Step

/-- A task has raised a flag and has not lowered it. -/
def Raised (take give : Exchange) (_ : Duty) (past : List Exchange) : Prop :=
  take ∈ past ∧ give ∉ past

theorem not_raised_nil {take give : Exchange} (duty : Duty) : ¬ Raised take give duty [] :=
  fun raised => absurd raised.1 List.not_mem_nil

theorem raised_snoc_iff {take give x : Exchange} {duty : Duty} {past : List Exchange}
    (untaken : x ≠ take) (ungiven : x ≠ give) :
    Raised take give duty (past ++ [x]) ↔ Raised take give duty past := by
  simp only [Raised, List.mem_append, List.mem_singleton, Ne.symm untaken, Ne.symm ungiven,
    or_false]

/-- A flag that is raised with one exchange and lowered with another one: by a task itself, once
and in this order, and never while it is up. -/
structure Guards (e : Engine) (flag : Shared → Bool) (take give : Exchange) : Prop where
  down : flag {} = false
  taken : ∀ {m m' : Machine e} {d : Deed}, Step m (.did d) m' → d.exchange = take →
    d.member = none ∧ take ∉ d.past ∧ give ∉ d.past ∧ flag m.shared = false ∧
      flag m'.shared = true
  given : ∀ {m m' : Machine e} {d : Deed}, Step m (.did d) m' → d.exchange = give →
    d.member = none ∧ take ∈ d.past ∧ give ∉ d.past ∧ flag m'.shared = false
  kept : ∀ {m m' : Machine e} {d : Deed}, Step m (.did d) m' → d.exchange ≠ take →
    d.exchange ≠ give → flag m'.shared = flag m.shared

/-- At most one task has the flag raised, and there is one exactly while the flag is up. -/
structure Machine.Excludes (m : Machine e) (flag : Shared → Bool) (take give : Exchange) :
    Prop where
  one : ∀ i j, m.Has (Raised take give) i → m.Has (Raised take give) j → i = j
  up : flag m.shared = true ↔ ∃ i, m.Has (Raised take give) i

namespace Guards

variable {flag : Shared → Bool} {take give : Exchange}

theorem differ (g : Guards e flag take give) {m m' : Machine e} {d : Deed}
    (step : Step m (.did d) m') (taken : d.exchange = take) : take ≠ give := by
  rintro rfl
  exact (g.taken step taken).2.1 (g.given step taken).2.1

theorem step (g : Guards e flag take give) (step : Step m l m')
    (before : m.Excludes flag take give) : m'.Excludes flag take give := by
  have steady (same : flag m'.shared = flag m.shared)
      (others : ∀ d, l = .did d → d.exchange ≠ take ∧ d.exchange ≠ give) :
      m'.Excludes flag take give := by
    have kept {i : Nat} : m'.Has (Raised take give) i ↔ m.Has (Raised take give) i :=
      step.has_iff not_raised_nil fun d here _ =>
        raised_snoc_iff (others d here).1 (others d here).2
    refine ⟨fun i j hi hj => before.one i j (kept.mp hi) (kept.mp hj), ?_⟩
    rw [same, before.up]
    exact exists_congr fun i => kept.symm
  cases l with
  | began c => exact steady (by rw [step.shared_of_began]) fun d here => nomatch here
  | dropped c => exact steady (by rw [step.shared_of_dropped]) fun d here => nomatch here
  | did d =>
      by_cases takes : d.exchange = take
      · -- Nobody has the flag raised before, and the task that takes it has it after.
        obtain ⟨own, untaken, ungiven, low, high⟩ := g.taken step takes
        have nobody : ∀ i, ¬ m.Has (Raised take give) i := by
          intro i raised
          rw [before.up.mpr ⟨i, raised⟩] at low
          cases low
        have only {i : Nat} (raised : m'.Has (Raised take give) i) : i = d.thread := by
          by_contra other
          refine nobody i ((step.has_iff_of_ne not_raised_nil ?_).mp raised)
          rintro _ ⟨⟩ _ same
          exact other same.symm
        have holder : m'.Has (Raised take give) d.thread := by
          rw [step.has_self own, Raised, takes]
          refine ⟨by simp, ?_⟩
          rw [List.mem_append, List.mem_singleton]
          rintro (old | same)
          · exact ungiven old
          · exact g.differ step takes same.symm
        exact ⟨fun i j hi hj => (only hi).trans (only hj).symm, iff_of_true high ⟨_, holder⟩⟩
      · by_cases gives : d.exchange = give
        · obtain ⟨own, taken, ungiven, low⟩ := g.given step gives
          have holder : m.Has (Raised take give) d.thread :=
            (step.has_actor own).mpr ⟨taken, ungiven⟩
          have nobody (i : Nat) : ¬ m'.Has (Raised take give) i := by
            intro raised
            by_cases same : i = d.thread
            · subst same
              have still := (step.has_self own).mp raised
              exact still.2 (by rw [gives]; simp)
            · refine same (before.one i _ ((step.has_iff_of_ne not_raised_nil ?_).mp raised) holder)
              rintro _ ⟨⟩ _ there
              exact same there.symm
          refine ⟨fun i _ hi => absurd hi (nobody i), iff_of_false (by simp [low]) ?_⟩
          rintro ⟨i, raised⟩
          exact nobody i raised
        · refine steady (g.kept step takes gives) ?_
          rintro _ ⟨⟩
          exact ⟨takes, gives⟩

/-- Whatever the tasks of an engine do, one at a time has the flag raised. -/
theorem run (g : Guards e flag take give) (run : Run ({} : Machine e) trace m) :
    m.Excludes flag take give := by
  generalize start : ({} : Machine e) = first at run
  induction run with
  | refl =>
      subst start
      have nobody (i : Nat) : ¬ ({} : Machine e).Has (Raised take give) i := by
        rintro ⟨t, here, _⟩
        cases here
      have low : flag ({} : Machine e).shared = false := g.down
      refine ⟨fun i _ hi => absurd hi (nobody i), iff_of_false (by simp [low]) ?_⟩
      rintro ⟨i, raised⟩
      exact nobody i raised
  | snoc _ step ih => exact g.step step ih

end Guards
end TokenKeeper
