import TokenKeeper.Proofs.Heartbeat.Running

/-!
# Dropped connections after a check

A connection that was dropped stays in the registry until somebody looks for stale ones. A check
does that in its pass, but only if it finds a token in the store. Then no entry is left whose
connection had been dropped when the check was let in; and if that was so of all of them and no
connection is tracked meanwhile, a check in the background also stops the heartbeat. Without a
token a check leaves the registry alone.
-/

namespace TokenKeeper

open Engine

variable {e : Engine} {m m' m₀ m₁ : Machine e} {trace earlier later : List Label} {l : Label}
variable {i : Nat} {t : Thread e} {c : Call} {d : Deed} {x : Tracked} {expiry : Instant}

/-- A connection that was dropped does not come back. -/
theorem Run.lost_mono {connection : Connection} (run : Run m trace m')
    (lost : m.alive connection = false) : m'.alive connection = false := by
  induction run with
  | refl => exact lost
  | snoc _ step ih =>
      cases step with
      | drop => simp [ih]
      | _ => exact ih

/-- An entry whose connection had been dropped is gone once somebody has looked for stale ones. -/
theorem Run.gone_of_search {a b : Machine e} (ordered : m₀.shared.registry.Ordered)
    (first : Run m₀ earlier b) (search : Step b (.did d) a)
    (asks : d.exchange.request = .stale expiry) (rest : Run a later m)
    (inside : x ∈ m₀.shared.registry.entries) (lost : m₀.alive x.connection = false) :
    ∀ y ∈ m.shared.registry.entries, y.id ≠ x.id := by
  intro y last same
  have whole := first.snoc search
  have low : y.id.number < m₀.shared.registry.nextId := same ▸ ordered.below x inside
  obtain ⟨z, found, later⟩ := rest.entry last (Nat.lt_of_lt_of_le low whole.nextId_le)
  rw [search.shared, asks] at found
  obtain ⟨there, alive⟩ := List.mem_filter.mp found
  obtain ⟨w, old, before⟩ := first.entry there (later.id ▸ low)
  obtain rfl := ordered.eq_of_id old inside (before.id.symm.trans (later.id.symm.trans same))
  rw [before.connection, first.lost_mono lost] at alive
  cases alive

/-- While no connection is tracked, every entry was there before. -/
theorem Run.entry_of_untracked (run : Run m trace m')
    (untracked : ∀ d, .did d ∈ trace → ∀ c tag, d.exchange.request ≠ .track c tag)
    (inside : x ∈ m'.shared.registry.entries) : ∃ y ∈ m.shared.registry.entries, y.Becomes x := by
  induction run generalizing x with
  | refl => exact ⟨x, inside, .refl x⟩
  | snoc run step ih =>
      rcases step.entry inside with ⟨y, before, becomes, _⟩ | ⟨d, rfl, exchange, _⟩
      · obtain ⟨z, first, earlier⟩ :=
          ih (fun d happened => untracked d (List.mem_append_left _ happened)) before
        exact ⟨z, first, earlier.trans becomes⟩
      · exact absurd (congrArg (·.request) exchange)
          (untracked d (List.mem_append_right _ List.mem_cons_self) _ _)

/-- If all connections had been dropped and none is tracked, nothing is left after a search. -/
theorem Run.empty_of_search {a b : Machine e} (ordered : m₀.shared.registry.Ordered)
    (first : Run m₀ earlier b) (search : Step b (.did d) a)
    (asks : d.exchange.request = .stale expiry) (rest : Run a later m)
    (lost : ∀ x ∈ m₀.shared.registry.entries, m₀.alive x.connection = false)
    (untracked : ∀ d', .did d' ∈ earlier ++ .did d :: later →
      ∀ c tag, d'.exchange.request ≠ .track c tag) :
    m.shared.registry.isEmpty = true := by
  have whole : Run m₀ (earlier ++ .did d :: later) m := first.trans ((Run.single search).trans rest)
  rw [Registry.isEmpty, List.isEmpty_iff]
  apply List.eq_nil_iff_forall_not_mem.mpr
  intro y inside
  obtain ⟨x, old, becomes⟩ := whole.entry_of_untracked untracked inside
  exact Run.gone_of_search ordered first search asks rest old (lost x old) y inside becomes.id

/-- An empty registry stays empty while no connection is tracked. -/
theorem Run.isEmpty_mono (run : Run m trace m')
    (untracked : ∀ d, .did d ∈ trace → ∀ c tag, d.exchange.request ≠ .track c tag)
    (empty : m.shared.registry.isEmpty = true) : m'.shared.registry.isEmpty = true := by
  rw [Registry.isEmpty, List.isEmpty_iff] at empty ⊢
  apply List.eq_nil_iff_forall_not_mem.mpr
  intro y inside
  obtain ⟨x, old, _⟩ := run.entry_of_untracked untracked inside
  rw [empty] at old
  cases old

/-- Nothing is tracked, the heartbeat does not run, and nobody is about to start it. -/
structure Machine.Resting (m : Machine e) : Prop where
  empty : m.shared.registry.isEmpty = true
  stopped : m.shared.heartbeat.isSome = false
  unseen : ∀ i, ¬ m.Has (Saw ⟨.registryIsEmpty, false⟩) i

theorem Step.resting (step : Step m l m')
    (untracked : ∀ d, l = .did d → ∀ c tag, d.exchange.request ≠ .track c tag)
    (h : m.Resting) : m'.Resting where
  empty := by
    refine (Run.single step).isEmpty_mono (fun d happened => untracked d ?_) h.empty
    exact (List.mem_singleton.mp happened).symm
  stopped := by
    cases l with
    | began c => rw [step.shared_of_began, h.stopped]
    | dropped c => rw [step.shared_of_dropped, h.stopped]
    | did d =>
        rw [step.heartbeat, h.stopped]
        cases runs : d.exchange.runs? with
        | none => rfl
        | some started =>
            cases started with
            | false => rfl
            | true =>
                have starts := Exchange.starts_of_runs? runs
                have busy : d.exchange.request.IsHeartbeat := by
                  rw [starts]
                  trivial
                obtain ⟨own, asks⟩ := step.sound.books busy
                have held := step.sound.held busy (by rw [starts]; nofun)
                have saw := (mem_books.mp (asks.starting starts)).1
                exact absurd ((step.has_actor own).mpr ⟨held, saw⟩) (h.unseen d.thread)
  unseen := by
    intro i saw
    refine h.unseen i (step.saw trivial ?_ saw)
    rintro d rfl looks
    have answer : false = m.shared.registry.isEmpty := step.answer looks rfl
    rw [h.empty] at answer
    cases answer

theorem Run.resting (run : Run m trace m')
    (untracked : ∀ d, .did d ∈ trace → ∀ c tag, d.exchange.request ≠ .track c tag)
    (h : m.Resting) : m'.Resting := by
  induction run with
  | refl => exact h
  | snoc _ step ih =>
      refine step.resting ?_ (ih fun d happened => untracked d (List.mem_append_left _ happened))
      rintro d rfl
      exact untracked d (List.mem_append_right _ List.mem_cons_self)

/-- A check that has found nothing tracked, and has ended, has stopped the heartbeat. -/
theorem Run.resting_of_ended {a b : Machine e} {past tail : List Exchange} {x : Exchange}
    (start : Run {} earlier b) (search : Step b (.did ⟨i, .call .check, none, past, x⟩) a)
    (stirs : x.request.stirs = true) (empty : a.shared.registry.isEmpty = true)
    (rest : Run a later m)
    (untracked : ∀ d, .did d ∈ later → ∀ c tag, d.exchange.request ≠ .track c tag)
    (here : m.threads[i]? = some t) (cut : t.past = past ++ x :: tail)
    (ended : t.rest.ended?.isSome = true) : m.Resting := by
  have kept := t.booksKept (Run.duty_after search rest here) rfl ended
  have ends := kept.ends (by rw [cut]; simp) stirs
  have quiet : books (past ++ [x]) = [] := search.books_of_stirs rfl stirs
  have listed : books t.past = books tail := by
    rw [cut, List.append_cons, books_append, quiet, List.nil_append]
  -- What the check does about the heartbeat comes after the search.
  have moment {y : Exchange} (inside : y ∈ books t.past) :
      ∃ before front back b' a', later = front ++ .did ⟨i, .call .check, none, before, y⟩ :: back ∧
        Run a front b' ∧ Step b' (.did ⟨i, .call .check, none, before, y⟩) a' ∧ Run a' back m ∧
        before ++ [y] <+: t.past := by
    rw [listed] at inside
    obtain ⟨first, last, rfl⟩ := List.append_of_mem (mem_books.mp inside).1
    have cut' : t.past = (past ++ x :: first) ++ y :: last := by rw [cut]; simp
    obtain ⟨front, back, b', a', same, run, step, onward⟩ := Run.moment_after search rest here
      ⟨first, by simp⟩ cut'
    exact ⟨_, front, back, b', a', same, run, step, onward, ⟨last, by rw [cut']; simp⟩⟩
  have unfilled : ⟨.registryIsEmpty, false⟩ ∉ books t.past := by
    intro inside
    obtain ⟨_, front, back, b', a', rfl, run, step, _⟩ := moment inside
    have answer : false = b'.shared.registry.isEmpty := step.answer rfl rfl
    rw [run.isEmpty_mono (fun d happened => untracked d (List.mem_append_left _ happened)) empty]
      at answer
    cases answer
  obtain ⟨before, front, back, b', a', rfl, run, step, onward, began⟩ :=
    moment (ends.stopped.resolve_left unfilled)
  refine onward.resting (fun d happened => untracked d (by simp [happened])) ⟨?_, ?_, ?_⟩
  · refine (run.snoc step).isEmpty_mono (fun d happened => untracked d ?_) empty
    rcases List.mem_append.mp happened with old | new
    · exact List.mem_append_left _ old
    · exact List.mem_append_right _ (List.mem_singleton.mp new ▸ List.mem_cons_self)
  · rw [step.heartbeat]
    rfl
  · -- The check itself has the lock.
    intro j saw
    have held : Raised locked unlocked (.call .check) before := step.sound.held trivial nofun
    have still : Raised locked unlocked (.call .check) (before ++ [⟨.stopHeartbeat, ()⟩]) :=
      (raised_snoc_iff (by simp) (by simp)).mpr held
    have holder : a'.Has (Raised locked unlocked) i := (step.has_self rfl).mpr still
    have alone := (lock_guards.run (((start.snoc search).trans run).snoc step)).one
    obtain rfl := alone j i (saw.imp fun t ⟨here, saw⟩ => ⟨here, saw.held⟩) holder
    have seen := ((step.has_self rfl).mp saw).saw
    exact unfilled (mem_books.mpr ⟨began.subset seen, trivial⟩)

/-- Whoever does not touch the registry and starts no workers has nothing done about the
registry. -/
theorem Run.untouched_of_past (run : Run ({} : Machine e) trace m) (here : m.threads[i]? = some t)
    (call : t.duty = .call c) (quiet : ∀ x ∈ t.past, x.request.touchesRegistry = false)
    (alone : ∀ x ∈ t.past, ∀ job, x.request ≠ .spawnWorker job) (happened : .did d ∈ trace)
    (part : d.InPass i) : d.exchange.request.touchesRegistry = false := by
  obtain ⟨t', there, duty⟩ := run.actor happened
  rcases part with rfl | ⟨_, job, worker⟩
  · obtain rfl := Option.some.inj (there.symm.trans here)
    have own := run.own_of_call happened (duty.symm.trans call)
    obtain ⟨t'', more, there, _, past⟩ := run.recorded happened own
    obtain rfl := Option.some.inj (there.symm.trans here)
    exact quiet _ (by rw [past]; simp)
  · obtain ⟨t'', _, there', _, spawned, _⟩ := run.employer there (duty.trans worker)
    obtain rfl := Option.some.inj (there'.symm.trans here)
    exact absurd rfl (alone _ spawned job)

/-- The requests of a check that has found no token. -/
def Request.IsIdle (q : Request) : Prop :=
  q = .tryEnter ∨ q.IsAcquiring ∨ q = .leave ∨ q.IsHeartbeat

namespace Request.IsIdle

variable {q : Request}

theorem touchesRegistry_eq_false (h : q.IsIdle) : q.touchesRegistry = false := by
  rcases h with rfl | h | rfl | h
  · rfl
  · cases q <;> first | rfl | exact h.elim
  · rfl
  · cases q <;> first | rfl | exact h.elim

theorem ne_spawnWorker (h : q.IsIdle) (job : ConnectionJob) : q ≠ .spawnWorker job := by
  rintro rfl
  rcases h with h | h | h | h
  · cases h
  · exact h
  · cases h
  · exact h

end Request.IsIdle

/-- A check that has found no token has seen to the token and to the heartbeat only. -/
theorem LeftAfterPass.isIdle {past renewal tail books : List Exchange} {name : Option String}
    (h : LeftAfterPass past renewal none name tail books) : ∀ x ∈ past, x.request.IsIdle := by
  intro x inside
  obtain rfl := h.idle rfl
  rw [h.past] at inside
  rcases List.mem_append.mp inside with old | new
  · rcases h.renewed.mem old with same | asks
    · exact .inl (by rw [List.mem_singleton.mp same])
    · exact .inr (.inl asks)
  · simp only [List.nil_append, List.mem_cons] at new
    rcases new with rfl | rfl | rfl | seen
    · exact .inr (.inl trivial)
    · exact .inr (.inl trivial)
    · exact .inr (.inr (.inl rfl))
    · exact .inr (.inr (.inr (h.only x seen)))

/-- A check has left the gate because its renewal panicked. -/
def BrokenOff (e : Engine) (past : List Exchange) : Prop :=
  ∃ renewal p, past = renewal ++ [left] ∧ Breaks e [entered] renewal p

/-- A check has run its pass, which found this token in the store. -/
structure RanWith (m₀ m₁ : Machine e) (later : List Label) (m : Machine e) (i : Nat) (c : Call)
    (t : Thread e) (current : Option Token) : Prop where
  /-- The store held this token when the pass looked. -/
  looked : ∃ renewal name front back look,
    renewal ++ [⟨.currentToken, current⟩, ⟨.username, name⟩] <+: t.past ∧
    Adds Request.IsAcquiring [entered] renewal ∧
    later = front ++ .did ⟨i, .call c, none, renewal, ⟨.currentToken, current⟩⟩ :: back ∧
    Run m₁ front look ∧ look.shared.store.current = current
  /-- Without a token nothing is done about the registry. -/
  idle : current = none → ∀ d, .did d ∈ later → d.InPass i →
    d.exchange.request.touchesRegistry = false
  /-- With a token no entry is left whose connection had been dropped at the entry. -/
  pruned : current.isSome = true → ∀ x ∈ m₀.shared.registry.entries,
    m₀.alive x.connection = false → ∀ y ∈ m.shared.registry.entries, y.id ≠ x.id
  /-- If all of them had been dropped, a check in the background ends with the heartbeat stopped. -/
  stopped : current.isSome = true → c = .check → t.rest.ended?.isSome = true →
    (∀ x ∈ m₀.shared.registry.entries, m₀.alive x.connection = false) →
    (∀ d, .did d ∈ later → ∀ connection tag, d.exchange.request ≠ .track connection tag) →
    m.shared.registry.size = 0 ∧ m.shared.heartbeat = none

section leaving

variable {renewal tail books : List Exchange} {name : Option String}

/-- If the pass has found no token, nobody does anything about the registry for the check. -/
theorem Run.idle_of_left (run : Run ({} : Machine e) trace m) (here : m.threads[i]? = some t)
    (call : t.duty = .call c) (h : LeftAfterPass t.past renewal none name tail books)
    (happened : .did d ∈ trace) (part : d.InPass i) :
    d.exchange.request.touchesRegistry = false :=
  run.untouched_of_past here call (fun x inside => (h.isIdle x inside).touchesRegistry_eq_false)
    (fun x inside => (h.isIdle x inside).ne_spawnWorker) happened part

/-- If the pass has found a token, it has given up the connections that had been dropped when the
check was let in. If it has given up all and none is tracked meanwhile, a check in the background
ends with the heartbeat stopped. -/
theorem Run.pruned_of_left {token : Token} (first : Run ({} : Machine e) earlier m₀)
    (entry : Step m₀ (.did ⟨i, .call c, none, [], entered⟩) m₁) (rest : Run m₁ later m)
    (here : m.threads[i]? = some t)
    (h : LeftAfterPass t.past renewal (some token) name tail books) :
    (∀ x ∈ m₀.shared.registry.entries, m₀.alive x.connection = false →
      ∀ y ∈ m.shared.registry.entries, y.id ≠ x.id) ∧
    (c = .check → t.rest.ended?.isSome = true →
      (∀ x ∈ m₀.shared.registry.entries, m₀.alive x.connection = false) →
      (∀ d, .did d ∈ later → ∀ connection tag, d.exchange.request ≠ .track connection tag) →
      m.shared.registry.size = 0 ∧ m.shared.heartbeat = none) := by
  obtain ⟨name, found, more, rfl, cut, _⟩ := first.search_of_left entry rest here h
  obtain ⟨front, back, b, a, rfl, start, search, onward⟩ := Run.moment_after entry rest here
    (h.renewed.isPrefix.trans (List.prefix_append renewal _)) cut
  have ordered := first.ordered Registry.Ordered.empty
  have upTo : Run m₀ _ b := (Run.single entry).trans start
  constructor
  · intro x inside lost
    exact Run.gone_of_search ordered upTo search rfl onward inside lost
  · rintro rfl ended lost untracked
    have empty : a.shared.registry.isEmpty = true := by
      refine Run.empty_of_search ordered upTo search rfl (.refl a) lost fun d happened => ?_
      rw [List.append_assoc] at happened
      rcases List.mem_append.mp happened with enters | later
      · obtain rfl := Label.did.inj (List.mem_singleton.mp enters)
        intro connection tag same
        cases same
      · exact untracked d (List.IsPrefix.subset ⟨back, by simp⟩ later)
    have resting := Run.resting_of_ended ((first.snoc entry).trans start) search rfl empty
      onward (fun d happened => untracked d (by simp [happened])) here cut ended
    refine ⟨?_, Option.not_isSome_iff_eq_none.mp (by simp [resting.stopped])⟩
    rw [Registry.size, List.isEmpty_iff.mp resting.empty, List.length_nil]

end leaving

/-- A check that was let in and has left the gate without a panic has run its pass. If that found a
token, no entry is left whose connection had been dropped when the check was let in; if it found
none, the registry was left alone. -/
theorem Run.dropped_after_check (first : Run ({} : Machine e) earlier m₀)
    (entry : Step m₀ (.did ⟨i, .call c, none, [], entered⟩) m₁) (rest : Run m₁ later m)
    (here : m.threads[i]? = some t) (out : left ∈ t.past) (calm : ¬ BrokenOff e t.past) :
    ∃ current, RanWith m₀ m₁ later m i c t current := by
  have whole := (first.snoc entry).trans rest
  obtain ⟨_, c', duty, isCheck, _⟩ := entry.sound.check_asks (.inl rfl)
  obtain rfl := Duty.call.inj duty
  have call : t.duty = .call c := Run.duty_after entry rest here
  rcases t.check_left call isCheck out with
    ⟨renewal, p, past, _, breaks, _⟩ | ⟨renewal, current, name, tail, books, passed⟩
  · exact absurd ⟨renewal, p, past, breaks⟩ calm
  obtain ⟨front, back, look, same, start, now⟩ := Run.look_of_left entry rest here passed
  have looked : renewal ++ [⟨.currentToken, current⟩, ⟨.username, name⟩] <+: t.past :=
    ⟨tail ++ left :: books, by rw [passed.past]; simp⟩
  refine ⟨current, ⟨renewal, name, front, back, look, looked, passed.renewed, same, start, now⟩,
    ?idle, ?pruned, ?stopped⟩
  case idle =>
    rintro rfl d happened part
    exact whole.idle_of_left here call passed (List.mem_append_right _ happened) part
  case pruned =>
    intro held
    obtain ⟨token, rfl⟩ := Option.isSome_iff_exists.mp held
    exact (first.pruned_of_left entry rest here passed).1
  case stopped =>
    intro held
    obtain ⟨token, rfl⟩ := Option.isSome_iff_exists.mp held
    exact (first.pruned_of_left entry rest here passed).2

namespace Run

/-- A connection is tracked before there is a token, and it is dropped. A check begins. -/
def neglected : Machine Engine.sample × List Label :=
  ({} : Machine Engine.sample).play
    (.begin (.established newcomer) :: Move.tells 0 8 Request.blank ++
      [.drop newcomer, .begin .check])

/-- The check is let in. -/
def neglectedEntered : Machine Engine.sample × List Label :=
  neglected.1.play (Move.tells 1 1 Request.blank)

/-- Every attempt to acquire a token fails, and the check ends. -/
def neglectedEnded : Machine Engine.sample × List Label :=
  neglectedEntered.1.play (Move.tells 1 24 Request.blank)

/-- The check has found no token. The connection is still tracked, and the heartbeat runs on. -/
theorem neglected_after_check :
    neglected.1.shared.registry.size = 1 ∧
      (∀ x ∈ neglected.1.shared.registry.entries, neglected.1.alive x.connection = false) ∧
      neglectedEnded.1.shared.registry = neglected.1.shared.registry ∧
      neglectedEnded.1.shared.heartbeat.isSome = true ∧
      ∃ t, neglectedEnded.1.threads[1]? = some t ∧ t.rest.ended?.isSome = true ∧
        RanWith neglected.1 neglectedEntered.1 neglectedEnded.2 neglectedEnded.1 1 .check t
          none := by
  have first : Run {} neglected.2 neglected.1 := Machine.play_run _ _
  have entry : Run neglected.1 neglectedEntered.2 neglectedEntered.1 := Machine.play_run _ _
  have rest : Run neglectedEntered.1 neglectedEnded.2 neglectedEnded.1 := Machine.play_run _ _
  have enters : neglectedEntered.2 = [.did ⟨1, .call .check, none, [], entered⟩] := by
    decide +kernel
  rw [enters] at entry
  have known : (neglectedEnded.1.threads[1]?.map fun t =>
      (t.past.getLast?, decide (left ∈ t.past), t.rest.ended?.isSome)) =
        some (some unlocked, true, true) := by decide +kernel
  obtain ⟨t, here, same⟩ := Option.map_eq_some_iff.mp known
  obtain ⟨last, out, ended⟩ := by simpa only [Prod.mk.injEq] using same
  have calm : ¬ BrokenOff Engine.sample t.past := by
    rintro ⟨renewal, p, past, _⟩
    rw [past, List.getLast?_concat] at last
    cases last
  have size : neglected.1.shared.registry.size = 1 := by decide +kernel
  have lost : ∀ x ∈ neglected.1.shared.registry.entries,
      neglected.1.alive x.connection = false := by decide +kernel
  have same : neglectedEnded.1.shared.registry = neglected.1.shared.registry := by decide +kernel
  obtain ⟨current, ran⟩ := Run.dropped_after_check first entry.step_of_single rest here
    (of_decide_eq_true out) calm
  refine ⟨size, lost, same, by decide +kernel, t, here, ended, ?_⟩
  cases current with
  | none => exact ran
  | some token =>
      obtain ⟨x, inside⟩ := List.exists_mem_of_length_pos (by rw [← Registry.size, size]; decide)
      exact absurd rfl (ran.pruned rfl x inside (lost x inside) x (by rwa [same]))

end Run
end TokenKeeper
