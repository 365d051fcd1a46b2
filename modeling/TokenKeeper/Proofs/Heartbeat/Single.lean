import TokenKeeper.Proofs.Heartbeat.Running

/-!
# One heartbeat, and none after the end

The heartbeats of a run are told from what the calls have done: each start adds one, and stopping
ends the one that was started last, since no other can be reached any more. Whoever starts one has
been told, under the lock, that none runs and that the engine has not been shut down. So there is
never a second one, and none is started once the call that shuts the engine down has had the lock.
-/

namespace TokenKeeper

open Engine
open Program (Meets)

variable {e : Engine} {m m' : Machine e} {trace later : List Label} {l : Label} {d : Deed}
variable {i : Nat} {t : Thread e}

/-- The heartbeats that are alive after something has happened, oldest first, each as the deed
that started it. -/
def Label.heartbeats (alive : List Deed) : Label → List Deed
  | .did d =>
    match d.exchange.request with
    | .startHeartbeat => alive ++ [d]
    | .stopHeartbeat => alive.dropLast
    | _ => alive
  | _ => alive

/-- The heartbeats that are alive at the end of a run. -/
def heartbeatsIn (trace : List Label) : List Deed := trace.foldl Label.heartbeats []

theorem heartbeatsIn_snoc (trace : List Label) (l : Label) :
    heartbeatsIn (trace ++ [l]) = l.heartbeats (heartbeatsIn trace) := by
  simp [heartbeatsIn]

namespace Label

theorem heartbeats_of_start (alive : List Deed) (starts : d.exchange.request = .startHeartbeat) :
    (Label.did d).heartbeats alive = alive ++ [d] := by
  simp [heartbeats, starts]

theorem heartbeats_of_stop (alive : List Deed) (stops : d.exchange.request = .stopHeartbeat) :
    (Label.did d).heartbeats alive = alive.dropLast := by
  simp [heartbeats, stops]

theorem heartbeats_of_other (alive : List Deed)
    (other : ∀ d, l = .did d → d.exchange.runs? = none) : l.heartbeats alive = alive := by
  cases l with
  | did d =>
      have quiet := other d rfl
      obtain ⟨i, duty, member, past, q, a⟩ := d
      cases q with
      | startHeartbeat => cases quiet
      | stopHeartbeat => cases quiet
      | _ => rfl
  | _ => rfl

end Label

theorem Exchange.stops_of_runs? {x : Exchange} (runs : x.runs? = some false) :
    x.request = .stopHeartbeat := by
  obtain ⟨q, a⟩ := x
  cases q with
  | stopHeartbeat => rfl
  | _ => cases runs

namespace Engine

/-- What was found out before the heartbeat is started. -/
def startingFrom : List Exchange :=
  [locked, ⟨.isShutDown, false⟩, ⟨.registryIsEmpty, false⟩, ⟨.heartbeatIsRunning, false⟩]

/-- The heartbeat is started after all this, and only then. -/
theorem syncHeartbeat_starts : syncHeartbeat.Meets (fun _ _ => True)
    (fun past q => q = .startHeartbeat → past = startingFrom) (fun _ _ => True) [] := by
  have unlocks (past : List Exchange) : (Program.request .unlockHeartbeat).Meets (fun _ _ => True)
      (fun past q => q = .startHeartbeat → past = startingFrom) (fun _ _ => True) past :=
    ⟨nofun, fun _ _ => trivial⟩
  have stops (past : List Exchange) : (carryOut false).Meets (fun _ _ => True)
      (fun past q => q = .startHeartbeat → past = startingFrom) (fun _ _ => True) past := by
    refine ⟨nofun, fun running _ => ?_⟩
    cases running <;> exact ⟨nofun, fun _ _ => unlocks _⟩
  rw [syncHeartbeat_eq]
  refine ⟨nofun, fun _ _ => ⟨nofun, fun ended _ => ?_⟩⟩
  cases ended with
  | true => exact stops _
  | false =>
      refine ⟨nofun, fun empty _ => ?_⟩
      cases empty with
      | true => exact stops _
      | false =>
          refine ⟨nofun, fun running _ => ?_⟩
          cases running with
          | true => exact unlocks _
          | false => exact ⟨fun _ => rfl, fun _ _ => unlocks _⟩

end Engine

/-- Who starts the heartbeat has found all this out. -/
theorem Deed.Sound.starts (sound : d.Sound e) (starts : d.exchange.request = .startHeartbeat) :
    TokenKeeper.books d.past = startingFrom := by
  have busy : d.exchange.request.IsHeartbeat := by
    rw [starts]
    trivial
  obtain ⟨own, _⟩ := sound.books busy
  obtain ⟨resume, reached⟩ := (sound.keepsBooks own).busy busy
  exact (syncHeartbeat_starts.reaches reached fun _ _ _ _ => trivial).1 starts

/-! ## One at a time -/

/-- No heartbeat runs when one is started. -/
theorem Run.silent_of_start (run : Run ({} : Machine e) trace m) (step : Step m (.did d) m')
    (starts : d.exchange.request = .startHeartbeat) : m.shared.heartbeat.isSome = false := by
  have busy : d.exchange.request.IsHeartbeat := by
    rw [starts]
    trivial
  obtain ⟨own, _⟩ := step.sound.books busy
  have holder : m.Has (Raised locked unlocked) d.thread :=
    (step.has_actor own).mpr (step.sound.held busy (by rw [starts]; nofun))
  obtain ⟨before, hand⟩ := run.booked.busy d.thread holder
  rw [step.has_actor own] at hand
  have found := step.sound.starts starts
  -- Nobody else has the lock, so what was found out still holds.
  have told : false = before := hand.told false (by rw [found]; simp [startingFrom])
  have running := hand.running
  rw [found, ← told] at running
  exact running

/-- There is one heartbeat if the shared state says that it runs, and none else. -/
theorem Run.heartbeats_length (run : Run ({} : Machine e) trace m) :
    (heartbeatsIn trace).length = m.shared.heartbeat.isSome.toNat := by
  generalize start : ({} : Machine e) = first at run
  induction run with
  | refl =>
      subst start
      rfl
  | @snoc m m' trace l run step ih =>
      subst start
      rw [heartbeatsIn_snoc]
      by_cases changes : ∃ d, l = .did d ∧ d.exchange.runs?.isSome = true
      · obtain ⟨d, rfl, changes⟩ := changes
        rw [step.heartbeat]
        cases runs : d.exchange.runs? with
        | none =>
            rw [runs] at changes
            cases changes
        | some starts =>
            cases starts with
            | true =>
                have asks := Exchange.starts_of_runs? runs
                rw [run.silent_of_start step asks] at ih
                rw [Label.heartbeats_of_start _ asks, List.length_append, ih]
                rfl
            | false =>
                have asks := Exchange.stops_of_runs? runs
                rw [Label.heartbeats_of_stop _ asks, List.length_dropLast, ih]
                cases m.shared.heartbeat <;> rfl
      · have other : ∀ d, l = .did d → d.exchange.runs? = none := by
          intro d same
          by_contra some
          exact changes ⟨d, same, Option.isSome_iff_ne_none.mpr some⟩
        rw [Label.heartbeats_of_other _ other, ih]
        congr 1
        cases l with
        | began c => rw [step.shared_of_began]
        | dropped c => rw [step.shared_of_dropped]
        | did d => rw [step.heartbeat, other d rfl, Option.getD_none]

/-! ## None after the end -/

/-- The engine was shut down, no heartbeat runs, and nobody goes by an old look at the mark. -/
structure Machine.Closed (m : Machine e) : Prop where
  mark : m.shared.isShutDown = true
  silent : m.shared.heartbeat.isSome = false
  unseen : ∀ i, ¬ m.Has (Saw ⟨.isShutDown, false⟩) i

namespace Machine.Closed

theorem step (step : Step m l m') (h : m.Closed) : m'.Closed where
  mark := (Run.single step).isShutDown_mono h.mark
  silent := by
    cases l with
    | began c => rw [step.shared_of_began, h.silent]
    | dropped c => rw [step.shared_of_dropped, h.silent]
    | did d =>
        rw [step.heartbeat, h.silent]
        cases runs : d.exchange.runs? with
        | none => rfl
        | some starts =>
            cases starts with
            | false => rfl
            | true =>
                -- Who starts the heartbeat has seen that the engine was not shut down.
                have asks := Exchange.starts_of_runs? runs
                have busy : d.exchange.request.IsHeartbeat := by
                  rw [asks]
                  trivial
                have saw : ⟨.isShutDown, false⟩ ∈ d.past :=
                  (mem_books.mp (by rw [step.sound.starts asks]; simp [startingFrom])).1
                refine absurd ((step.has_actor (step.sound.books busy).1).mpr ⟨?_, saw⟩)
                  (h.unseen d.thread)
                exact step.sound.held busy (by rw [asks]; nofun)
  unseen := by
    intro i saw
    apply h.unseen i
    refine step.saw trivial ?_ saw
    rintro d rfl looks
    have answer : false = m.shared.isShutDown := step.answer looks rfl
    rw [h.mark] at answer
    cases answer

theorem run (run : Run m trace m') (h : m.Closed) : m'.Closed := by
  induction run with
  | refl => exact h
  | snoc _ step ih => exact ih.step step

end Machine.Closed

/-- The call that shuts the engine down sets the mark first of all. -/
theorem Thread.first_of_shutDown (duty : t.duty = .call .shutDown) {x : Exchange}
    {since : List Exchange} (past : t.past = x :: since) : x = ⟨.shutDown, ()⟩ := by
  have reached := t.sound
  rw [duty, past] at reached
  cases reached
  rfl

/-- Once that call has done anything the mark is set. -/
theorem Run.marked (run : Run ({} : Machine e) trace m) (here : m.threads[i]? = some t)
    (duty : t.duty = .call .shutDown) (acted : t.past ≠ []) : m.shared.isShutDown = true := by
  obtain ⟨x, since, past⟩ := List.exists_cons_of_ne_nil acted
  obtain rfl := Thread.first_of_shutDown duty past
  obtain ⟨_, deed⟩ := run.deed_of_past (Nat.zero_le i) here (by rw [past]; exact List.mem_cons_self)
  obtain ⟨earlier, later, rfl⟩ := List.append_of_mem deed
  obtain ⟨before, after, _, step, rest⟩ := run.cut
  apply rest.isShutDown_mono
  rw [step.shared]
  rfl

/-- That call never sees that the engine was not shut down. -/
theorem Run.not_seen_open (run : Run ({} : Machine e) trace m) (here : m.threads[i]? = some t)
    (duty : t.duty = .call .shutDown) : ⟨.isShutDown, false⟩ ∉ t.past := by
  intro inside
  obtain ⟨earlier, later, cut, deed⟩ := (run.history (Nat.zero_le i) here).own.of_mem inside
  obtain ⟨first, back, rfl⟩ := List.append_of_mem deed
  obtain ⟨before, after, start, step, _⟩ := run.cut
  obtain ⟨t₁, there, duty₁, known⟩ := step.actor
  have acted : t₁.past ≠ [] := by
    rw [(known rfl).1]
    rintro rfl
    cases Thread.first_of_shutDown duty cut
  have mark := start.marked there (duty₁.trans duty) acted
  have answer : false = before.shared.isShutDown := step.answer rfl rfl
  rw [mark] at answer
  cases answer

/-- When that call stops the heartbeat, the engine is closed. -/
theorem Run.closed_of_stop (run : Run ({} : Machine e) trace m) (step : Step m (.did d) m')
    (duty : d.duty = .call .shutDown) (stops : d.exchange.request = .stopHeartbeat) :
    m'.Closed := by
  have busy : d.exchange.request.IsHeartbeat := by
    rw [stops]
    trivial
  obtain ⟨own, _⟩ := step.sound.books busy
  obtain ⟨t, here, duty', past⟩ := step.actor
  have unseen : ⟨.isShutDown, false⟩ ∉ d.past := by
    rw [← (past own).1]
    exact run.not_seen_open here (duty'.trans duty)
  have held := step.sound.held busy (by rw [stops]; nofun)
  have acted : t.past ≠ [] := by
    rw [(past own).1]
    exact List.ne_nil_of_mem held.1
  refine ⟨?mark, ?silent, ?unseen⟩
  case mark =>
    exact (Run.single step).isShutDown_mono (run.marked here (duty'.trans duty) acted)
  case silent =>
    rw [step.heartbeat]
    obtain ⟨j, duty, member, past, q, a⟩ := d
    obtain rfl : q = .stopHeartbeat := stops
    rfl
  case unseen =>
    intro i saw
    have saw : m.Has (Saw ⟨.isShutDown, false⟩) i := by
      refine step.saw trivial ?_ saw
      rintro _ ⟨⟩ looks
      rw [looks] at stops
      cases stops
    obtain ⟨t₁, there, saw⟩ := saw
    -- Only one task at a time has the lock.
    obtain rfl := (lock_guards.run run).one _ _ ⟨t₁, there, saw.held⟩
      ((step.has_actor own).mpr held)
    obtain rfl := Option.some.inj (here.symm.trans there)
    exact unseen ((past own).1 ▸ saw.saw)

/-- When the call that shuts the engine down has ended, the engine is closed. -/
theorem Run.closed (run : Run ({} : Machine e) trace m) (here : m.threads[i]? = some t)
    (duty : t.duty = .call .shutDown) (ended : t.rest.ended?.isSome = true) : m.Closed := by
  have acted : t.past ≠ [] := by
    intro none
    have reached := t.sound
    rw [duty, none] at reached
    generalize rest : t.rest = p at reached ended
    cases reached
    cases ended
  obtain ⟨x, since, past⟩ := List.exists_cons_of_ne_nil acted
  obtain rfl := Thread.first_of_shutDown duty past
  have ends := (t.booksKept duty rfl ended).ends (by rw [past]; exact List.mem_cons_self) rfl
  have stop : ⟨.stopHeartbeat, ()⟩ ∈ t.past := by
    rcases ends.stopped with counted | stopped
    · obtain ⟨earlier, later, cut, deed⟩ :=
        (run.history (Nat.zero_le i) here).own.of_mem (mem_books.mp counted).1
      obtain ⟨first, back, rfl⟩ := List.append_of_mem deed
      obtain ⟨before, after, start, step, _⟩ := run.cut
      have looked := (step.sound.books trivial).2.deciding rfl
      have saw : ⟨.isShutDown, false⟩ ∈ earlier := (mem_books.mp (by rw [looked]; simp)).1
      refine absurd ?_ (run.not_seen_open here duty)
      rw [cut]
      exact List.mem_append_left _ saw
    · exact (mem_books.mp stopped).1
  obtain ⟨_, deed⟩ := run.deed_of_past (Nat.zero_le i) here stop
  obtain ⟨first, back, rfl⟩ := List.append_of_mem deed
  obtain ⟨before, after, start, step, rest⟩ := run.cut
  exact (start.closed_of_stop step duty rfl).run rest

/-- At every moment of every run there is at most one heartbeat, and there is one exactly if the
shared state says so. Once a call that shuts the engine down has ended there is none, whatever
happens later. -/
theorem Run.one_heartbeat (run : Run ({} : Machine e) trace m) :
    (heartbeatsIn trace).length ≤ 1 ∧
    (heartbeatsIn trace ≠ [] ↔ m.shared.heartbeat.isSome = true) ∧
    ∀ (i : Nat) (t : Thread e), m.threads[i]? = some t → t.duty = .call .shutDown →
      t.rest.ended?.isSome = true → ∀ later m', Run m later m' →
        heartbeatsIn (trace ++ later) = [] ∧ m'.shared.heartbeat = none := by
  have counted := run.heartbeats_length
  refine ⟨counted ▸ Bool.toNat_le _, ?_, ?_⟩
  · rw [← List.length_pos_iff, counted]
    cases m.shared.heartbeat <;> simp
  · intro i t here duty ended later m' onward
    have closed := (run.closed here duty ended).run onward
    refine ⟨?_, Option.isNone_iff_eq_none.mp (by simp [← Option.not_isSome, closed.silent])⟩
    rw [← List.length_eq_zero_iff, (run.trans onward).heartbeats_length, closed.silent]
    rfl

namespace Run

/-- A connection is tracked, and then the engine is shut down. -/
def retired : Machine Engine.sample × List Label :=
  ({} : Machine Engine.sample).play
    (.begin (.established newcomer) :: Move.tells 0 8 Request.blank ++
      .begin .shutDown :: Move.tells 1 6 Request.blank)

/-- Another connection is tracked afterwards. -/
def revisited : Machine Engine.sample × List Label :=
  retired.1.play (.begin (.established ⟨2, "late"⟩) :: Move.tells 2 8 Request.blank)

/-- The heartbeat had been running, and with two connections tracked it does not run again. -/
theorem no_heartbeat_for_latecomer :
    (heartbeatsIn (retired.2.take 9)).length = 1 ∧ revisited.1.shared.registry.size = 2 ∧
      heartbeatsIn (retired.2 ++ revisited.2) = [] := by
  have run : Run {} retired.2 retired.1 := Machine.play_run _ _
  have onward : Run retired.1 revisited.2 revisited.1 := Machine.play_run _ _
  have gone : (retired.1.threads[1]?.map fun t => (t.duty, t.rest.ended?.isSome)) =
      some (.call .shutDown, true) := by decide +kernel
  obtain ⟨t, here, same⟩ := Option.map_eq_some_iff.mp gone
  obtain ⟨duty, ended⟩ := Prod.mk.inj same
  obtain ⟨_, _, none⟩ := run.one_heartbeat
  exact ⟨by decide +kernel, by decide +kernel, (none 1 t here duty ended _ _ onward).1⟩

end Run
end TokenKeeper
