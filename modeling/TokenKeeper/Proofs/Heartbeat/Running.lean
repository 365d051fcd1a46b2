import TokenKeeper.Proofs.Check.Pass
import TokenKeeper.Proofs.Heartbeat.Books
import TokenKeeper.Proofs.Pass.Overlap

/-!
# When the heartbeat runs

The heartbeat is wanted while connections are tracked and the engine has not been shut down. A
call that changes this and sees to the heartbeat owes a verdict until it has come to one, which is
before it ends. So once all calls have ended the heartbeat runs as it is wanted, with one
exception: if the last connection was given up for a call that does not see to the heartbeat, it
runs on until some other call comes to a verdict.
-/

namespace TokenKeeper

open Engine

variable {e : Engine} {m m' : Machine e} {trace later : List Label} {l : Label} {d : Deed}
variable {i : Nat} {t : Thread e} {c : Call} {past : List Exchange} {q : Request}

namespace Shared

/-- Whether the heartbeat is wanted. -/
def wanted (s : Shared) : Bool := !s.isShutDown && !s.registry.isEmpty

theorem isShutDown_after (s : Shared) (alive : Connection → Bool) (other : q ≠ .shutDown) :
    (s.after alive q).isShutDown = s.isShutDown := by
  cases q with
  | shutDown => exact absurd rfl other
  | _ => rfl

/-- Only by tracking a connection does an empty registry get an entry. -/
theorem isEmpty_after {s : Shared} (alive : Connection → Bool) (other : ∀ c tag, q ≠ .track c tag)
    (empty : s.registry.isEmpty = true) : (s.after alive q).registry.isEmpty = true := by
  have none : s.registry.entries = [] := List.isEmpty_iff.mp empty
  cases q with
  | track c tag => exact absurd rfl (other c tag)
  | stale => simp [after, Registry.stale, Registry.isEmpty, none]
  | untrack => simp [after, Registry.untrack, Registry.isEmpty, none]
  | mark => simp [after, Registry.mark, Registry.isEmpty, none]
  | _ => exact empty

theorem isEmpty_after_of_quiet (s : Shared) (alive : Connection → Bool) (quiet : q.stirs = false) :
    (s.after alive q).registry.isEmpty = s.registry.isEmpty := by
  cases q with
  | track => cases quiet
  | stale => cases quiet
  | untrack => cases quiet
  | mark id expiry => simp [after, Registry.mark, Registry.isEmpty]
  | _ => rfl

/-- If connections are only given up, the heartbeat is no longer wanted once none is left. -/
theorem emptied_of_wanted_ne {s s' : Shared} (mark : s'.isShutDown = s.isShutDown)
    (shrinks : s.registry.isEmpty = true → s'.registry.isEmpty = true)
    (changed : s'.wanted ≠ s.wanted) :
    s.isShutDown = false ∧ s.registry.isEmpty = false ∧ s'.registry.isEmpty = true := by
  rw [wanted, wanted, mark] at changed
  cases ended : s.isShutDown with
  | true => simp [ended] at changed
  | false =>
      cases before : s.registry.isEmpty with
      | true => simp [ended, before, shrinks before] at changed
      | false =>
          cases after : s'.registry.isEmpty with
          | true => exact ⟨rfl, rfl, rfl⟩
          | false => simp [ended, before, after] at changed

end Shared

/-- A call has stirred what the heartbeat depends on and has not come to a verdict. -/
structure Owes (duty : Duty) (past : List Exchange) : Prop where
  keeps : ∃ c, duty = .call c ∧ c.keepsBooks = true
  stirred : ∃ x ∈ past, x.request.stirs = true
  undecided : ∀ x ∈ past, x.verdict? = none

namespace Owes

variable {duty : Duty}

theorem not_nil (duty : Duty) : ¬ Owes duty [] := by
  rintro ⟨_, ⟨x, inside, _⟩, _⟩
  cases inside

theorem snoc {x : Exchange} (h : Owes duty past) (other : x.verdict? = none) :
    Owes duty (past ++ [x]) where
  keeps := h.keeps
  stirred := by
    obtain ⟨y, inside, stirs⟩ := h.stirred
    exact ⟨y, List.mem_append_left _ inside, stirs⟩
  undecided := by
    intro y inside
    rcases List.mem_append.mp inside with old | new
    · exact h.undecided y old
    · rwa [List.mem_singleton.mp new]

/-- Who stirs while its books are empty owes a verdict. -/
theorem of_books (keeps : ∃ c, duty = .call c ∧ c.keepsBooks = true)
    (quiet : books past = []) (stirred : ∃ x ∈ past, x.request.stirs = true) : Owes duty past where
  keeps := keeps
  stirred := stirred
  undecided := by
    intro x inside
    apply Exchange.verdict?_eq_none
    intro busy
    have listed : x ∈ books past := mem_books.mpr ⟨inside, busy⟩
    rw [quiet] at listed
    cases listed

end Owes

/-- A worker that goes on does so for a call that has not come to its books, since that waits for
all of its workers. -/
theorem Run.books_of_working {pass : Nat} {job : ConnectionJob} (run : Run ({} : Machine e) trace m)
    (here : m.threads[i]? = some t) (duty : t.duty = .worker pass job)
    (working : t.rest.ended? = none) {t' : Thread e} (there : m.threads[pass]? = some t')
    (call : t'.duty = .call c) (spawned : ⟨.spawnWorker job, ⟨i⟩⟩ ∈ t'.past)
    (keeps : c.keepsBooks = true) : books t'.past = [] := by
  have isCheck : c = .check := by
    have asks := t'.mayAsk spawned
    rw [call] at asks
    cases c with
    | check => rfl
    | established => simp [Duty.MayAsk, Call.MayAsk, Request.IsHeartbeat] at asks
    | stop => simp [Duty.MayAsk, Call.MayAsk, Request.IsHeartbeat] at asks
    | shutDown => simp [Duty.MayAsk, Call.MayAsk, Request.IsHeartbeat] at asks
    | _ => cases keeps
  subst isCheck
  rcases t'.check_course call rfl with unbegun | inside | ⟨gone, b, since, done, past, only, _⟩
  · rw [unbegun] at spawned
    cases spawned
  · exact inside.books_eq_nil
  rw [past] at spawned
  have early := (List.mem_append.mp spawned).resolve_right fun late => only _ late
  have unspawned {renewal : List Exchange} (renewed : Adds Request.IsAcquiring [entered] renewal) :
      ⟨.spawnWorker job, ⟨i⟩⟩ ∉ renewal := by
    intro inside
    rcases renewed.mem inside with first | asks
    · cases List.mem_singleton.mp first
    · exact asks.elim
  cases done with
  | refused => cases List.mem_singleton.mp early
  | broken done =>
      cases done with
      | broken renewing breaks =>
          rcases List.mem_append.mp early with work | last
          · exact absurd work (unspawned renewing)
          · cases List.mem_singleton.mp last
  | @served work done =>
      cases done with
      | @served renewal _ _ renewed passing ends =>
          -- The pass has waited for the worker, which then has ended.
          obtain ⟨seen, name, rest, looked, _, joined⟩ := ends.looked
          have within : ⟨.spawnWorker job, ⟨i⟩⟩ ∈ rest := by
            rw [looked] at early
            simpa [unspawned renewed] using early
          obtain ⟨o, join⟩ := joined job ⟨i⟩ within
          obtain ⟨_, deed⟩ := run.deed_of_past (Nat.zero_le pass) there
            (show ⟨.joinWorker ⟨i⟩, o⟩ ∈ t'.past by rw [past, looked]; simp [join])
          obtain ⟨t'', here', outcome⟩ := run.joined deed rfl
          obtain rfl := Option.some.inj (here'.symm.trans here)
          have ended := Thread.ended_of_outcome? outcome
          rw [working] at ended
          cases ended

/-- A call that owes a verdict and has not yet looked whether the engine was shut down. -/
structure OwesEnd (duty : Duty) (past : List Exchange) : Prop extends Owes duty past where
  unlooked : ∀ x ∈ past, x.request ≠ .isShutDown

/-- Only calls that keep books track connections and shut the engine down. -/
theorem Duty.keepsBooks_of_opens {duty : Duty} (h : duty.MayAsk q)
    (opens : q = .shutDown ∨ ∃ c tag, q = .track c tag) :
    ∃ c, duty = .call c ∧ c.keepsBooks = true := by
  cases duty with
  | worker pass job => rcases opens with rfl | ⟨c, tag, rfl⟩ <;> exact h.elim
  | call c =>
      refine ⟨c, rfl, ?_⟩
      cases c with
      | established => rfl
      | stop => rfl
      | shutDown => rfl
      | check => rfl
      | _ => rcases opens with rfl | ⟨c, tag, rfl⟩ <;> simp [MayAsk, Call.MayAsk,
          Request.IsInside, Request.IsAcquiring, Request.IsPassing] at h

/-- The books of a task are as empty after a deed that stirs as before. -/
theorem Step.books_of_stirs (step : Step m (.did d) m') (own : d.member = none)
    (stirs : d.exchange.request.stirs = true) : books (d.past ++ [d.exchange]) = [] := by
  have other : ¬ d.exchange.request.IsHeartbeat := by
    intro busy
    cases q : d.exchange.request <;> rw [q] at stirs busy <;>
      first | exact busy.elim | cases stirs
  rw [books_snoc_of_other other, (step.sound.keepsBooks own).quiet other]

/-- The call that shuts the engine down has yet to look at that. -/
theorem Step.owesEnd (step : Step m (.did d) m') (ends : d.exchange.request = .shutDown) :
    m'.Has OwesEnd d.thread := by
  have own := Deed.member_eq_none step.sound (by rw [ends]; rfl)
  have quiet := step.books_of_stirs own (by rw [ends]; rfl)
  have call := Duty.keepsBooks_of_opens (step.sound.mayAsk own) (.inl ends)
  rw [step.has_self own]
  refine ⟨.of_books call quiet ⟨d.exchange, by simp, by rw [ends]; rfl⟩, fun x inside looks => ?_⟩
  have listed : x ∈ books (d.past ++ [d.exchange]) := mem_books.mpr ⟨inside, by rw [looks]; trivial⟩
  rw [quiet] at listed
  cases listed

theorem Step.isShutDown (step : Step m l m')
    (other : ∀ d, l = .did d → d.exchange.request ≠ .shutDown) :
    m'.shared.isShutDown = m.shared.isShutDown := by
  cases l with
  | began c => rw [step.shared_of_began]
  | dropped c => rw [step.shared_of_dropped]
  | did d => rw [step.shared, Shared.isShutDown_after _ _ (other d rfl)]

/-- While somebody goes by an old look at the mark of a shut-down engine, the call that has set the
mark waits for the lock. -/
theorem Run.end_owed (run : Run ({} : Machine e) trace m) (ended : m.shared.isShutDown = true)
    (seen : m.Has (Saw ⟨.isShutDown, false⟩) i) : ∃ j, m.Has OwesEnd j := by
  generalize start : ({} : Machine e) = first at run
  induction run with
  | refl =>
      subst start
      cases ended
  | @snoc m m' trace l run step ih =>
      subst start
      by_cases ends : ∃ d, l = .did d ∧ d.exchange.request = .shutDown
      · obtain ⟨d, rfl, ends⟩ := ends
        exact ⟨d.thread, step.owesEnd ends⟩
      rw [step.isShutDown fun d same asks => ends ⟨d, same, asks⟩] at ended
      -- Nobody sees any more that the engine was not shut down.
      have seen : m.Has (Saw ⟨.isShutDown, false⟩) i := by
        refine step.saw trivial ?_ seen
        rintro d rfl looks
        have answer : false = m.shared.isShutDown := step.answer looks rfl
        rw [ended] at answer
        cases answer
      obtain ⟨j, owes⟩ := ih ended seen
      refine ⟨j, step.has_mono (fun duty owes => Owes.not_nil duty owes.toOwes) ?_ owes⟩
      rintro d rfl own ⟨owes, unlooked⟩
      -- Only who has the lock can look at the mark or come to a verdict.
      have unheld (busy : d.exchange.request.IsHeartbeat) :
          d.exchange.request = .lockHeartbeat := by
        by_contra other
        have holder : m.Has (Raised locked unlocked) d.thread :=
          (step.has_actor own).mpr (step.sound.held busy other)
        obtain ⟨t, here, saw⟩ := seen
        obtain rfl := (lock_guards.run run).one _ _ holder ⟨t, here, saw.held⟩
        exact unlooked _ ((step.has_actor own).mp ⟨t, here, saw⟩).saw rfl
      have looks : d.exchange.request ≠ .isShutDown := fun looks => by
        have request := unheld (by rw [looks]; trivial)
        rw [looks] at request
        cases request
      refine ⟨owes.snoc (Exchange.verdict?_eq_none_of_ne looks fun counts => ?_),
        fun x inside => ?_⟩
      · have request := unheld (by rw [counts]; trivial)
        rw [counts] at request
        cases request
      · rcases List.mem_append.mp inside with old | new
        · exact unlooked x old
        · rwa [List.mem_singleton.mp new]

/-- The call of a duty, if it is one. -/
def Duty.call? : Duty → Option Call
  | .call c => some c
  | .worker _ _ => none

/-- The call for which a task works. -/
def Machine.callOf? (m : Machine e) : Duty → Option Call
  | .call c => some c
  | .worker pass _ => m.threads[pass]?.bind fun t => t.duty.call?

/-- Every task works for a call. -/
theorem Run.callOf (run : Run ({} : Machine e) trace m) (here : m.threads[i]? = some t) :
    ∃ c, m.callOf? t.duty = some c := by
  cases duty : t.duty with
  | call c => exact ⟨c, rfl⟩
  | worker pass job =>
      obtain ⟨t', c, there, call, _⟩ := run.employer here duty
      exact ⟨c, by simp [Machine.callOf?, there, call, Duty.call?]⟩

/-- If a task stirs for a call that keeps books, this call owes a verdict. -/
theorem Run.owes_of_stirs (run : Run ({} : Machine e) trace m) (step : Step m (.did d) m')
    (stirs : d.exchange.request.stirs = true) (works : m.callOf? d.duty = some c)
    (keeps : c.keepsBooks = true) : ∃ j, m'.Has Owes j := by
  have own := Deed.member_eq_none step.sound (by
    cases q : d.exchange.request <;> rw [q] at stirs <;> first | rfl | cases stirs)
  have quiet := step.books_of_stirs own stirs
  cases duty : d.duty with
  | call c' =>
      rw [duty] at works
      obtain rfl := Option.some.inj works
      refine ⟨d.thread, (step.has_self own).mpr ?_⟩
      exact .of_books ⟨c', duty, keeps⟩ quiet ⟨d.exchange, by simp, stirs⟩
  | worker pass job =>
      obtain ⟨t, here, isDuty, asks⟩ := step.actor
      obtain ⟨_, resume, asks⟩ := asks own
      obtain ⟨t', c', there, call, spawned, _, found, finds, _⟩ :=
        run.employer here (isDuty.trans duty)
      have same : m.callOf? d.duty = some c' := by
        simp [Machine.callOf?, duty, there, call, Duty.call?]
      obtain rfl := Option.some.inj (same.symm.trans works)
      have before : m.Has Owes pass := by
        refine ⟨t', there, .of_books ⟨c', call, keeps⟩ ?_ ⟨_, finds, rfl⟩⟩
        exact run.books_of_working here (isDuty.trans duty) (by rw [asks]; rfl) there call spawned
          keeps
      refine ⟨pass, step.has_mono Owes.not_nil ?_ before⟩
      rintro _ ⟨⟩ _ owes
      refine owes.snoc (Exchange.verdict?_eq_none fun busy => ?_)
      rw [books_snoc busy] at quiet
      simp at quiet

/-- A task stirs for a call that keeps books. -/
def Machine.Watched (m : Machine e) (l : Label) : Prop :=
  ∃ d c, l = .did d ∧ d.exchange.request.stirs = true ∧ m.callOf? d.duty = some c ∧
    c.keepsBooks = true

/-- Whoever tracks a connection or shuts the engine down is watched. -/
theorem Step.watched_of_opens (step : Step m (.did d) m')
    (opens : d.exchange.request = .shutDown ∨ ∃ c tag, d.exchange.request = .track c tag) :
    m.Watched (.did d) := by
  have stirs : d.exchange.request.stirs = true := by
    rcases opens with asks | ⟨c, tag, asks⟩ <;> rw [asks] <;> rfl
  have own := Deed.member_eq_none step.sound (by
    rcases opens with asks | ⟨c, tag, asks⟩ <;> rw [asks] <;> rfl)
  obtain ⟨c, duty, keeps⟩ := Duty.keepsBooks_of_opens (step.sound.mayAsk own) opens
  exact ⟨d, c, rfl, stirs, by rw [duty]; rfl, keeps⟩

/-- Unwatched, the engine is not shut down and an empty registry stays empty. -/
theorem Step.only_empties (step : Step m l m') (unwatched : ¬ m.Watched l) :
    m'.shared.isShutDown = m.shared.isShutDown ∧
      (m.shared.registry.isEmpty = true → m'.shared.registry.isEmpty = true) := by
  constructor
  · refine step.isShutDown ?_
    rintro d rfl ends
    exact unwatched (step.watched_of_opens (.inl ends))
  · intro empty
    cases l with
    | began c => rwa [step.shared_of_began]
    | dropped c => rwa [step.shared_of_dropped]
    | did d =>
        rw [step.shared]
        refine Shared.isEmpty_after m.alive (fun c tag tracks => ?_) empty
        exact unwatched (step.watched_of_opens (.inr ⟨c, tag, tracks⟩))

/-- The registry was emptied for a call that does not see to the heartbeat, and nobody has come to a
verdict since. -/
structure Forgets (earlier : List Label) (d : Deed) (later : List Label)
    (before after m : Machine e) : Prop where
  first : Run {} earlier before
  step : Step before (.did d) after
  rest : Run after later m
  filled : before.shared.registry.isEmpty = false
  emptied : after.shared.registry.isEmpty = true
  careless : ∃ c, before.callOf? d.duty = some c ∧ c.keepsBooks = false
  undecided : ∀ d', .did d' ∈ later → d'.exchange.verdict? = none

/-- In this run to this machine the heartbeat was forgotten. -/
def Abandoned (trace : List Label) (m : Machine e) : Prop :=
  ∃ earlier d later before after, trace = earlier ++ .did d :: later ∧
    Forgets earlier d later before after m

theorem Abandoned.snoc (h : Abandoned trace m) (step : Step m l m')
    (undecided : ∀ d, l = .did d → d.exchange.verdict? = none) : Abandoned (trace ++ [l]) m' := by
  obtain ⟨earlier, d, later, before, after, rfl, forgets⟩ := h
  refine ⟨earlier, d, later ++ [l], before, after, by simp, ?_⟩
  refine { forgets with rest := forgets.rest.snoc step, undecided := fun d' inside => ?_ }
  rcases List.mem_append.mp inside with old | new
  · exact forgets.undecided d' old
  · exact undecided d' (List.mem_singleton.mp new).symm

/-- How the latest verdict stands to what is wanted: it is right, or a call owes another one, or the
heartbeat was forgotten. -/
inductive Standing (trace : List Label) (m : Machine e) : Prop
  | right (fits : verdict trace = m.shared.wanted)
  | owed {i : Nat} (owes : m.Has Owes i)
  | forgotten (running : m.shared.isShutDown = false) (empty : m.shared.registry.isEmpty = true)
      (abandoned : Abandoned trace m)

namespace Run

/-- A verdict is right unless the engine has been shut down meanwhile, and then the call that did
so comes to another one. -/
theorem standing_of_verdict {b : Bool} (run : Run ({} : Machine e) trace m)
    (step : Step m (.did d) m') (decides : d.exchange.verdict? = some b) :
    Standing (trace ++ [.did d]) m' := by
  have latest : verdict (trace ++ [.did d]) = b := by
    rw [verdict_snoc, Label.exchange?, Option.bind_some, decides, Option.getD_some]
  have shared := step.shared
  obtain ⟨i, duty, member, past, q, a⟩ := d
  cases q with
  | isShutDown =>
      cases a with
      | false => cases decides
      | true =>
          obtain rfl := Option.some.inj decides
          have ended : true = m.shared.isShutDown := step.answer rfl rfl
          have same : m'.shared.isShutDown = m.shared.isShutDown := by rw [shared]; rfl
          exact .right (by rw [latest, Shared.wanted, same, ← ended]; rfl)
  | registryIsEmpty =>
      obtain rfl := Option.some.inj decides
      have answer : a = m.shared.registry.isEmpty := step.answer rfl rfl
      have same : m'.shared = m.shared := shared
      cases ended : m.shared.isShutDown with
      | false => exact .right (by rw [latest, Shared.wanted, same, ended, ← answer]; rfl)
      | true =>
          obtain ⟨own, asks⟩ := step.sound.books trivial
          have looked := asks.deciding rfl
          have saw : ⟨.isShutDown, false⟩ ∈ past := (mem_books.mp (by rw [looked]; simp)).1
          have other : Request.registryIsEmpty ≠ .lockHeartbeat := by
            intro same
            cases same
          have holder : m.Has (Saw ⟨.isShutDown, false⟩) i := (step.has_actor own).mpr
            ⟨step.sound.held trivial other, saw⟩
          obtain ⟨j, owes⟩ := run.end_owed ended holder
          have elsewhere : i ≠ j := by
            rintro rfl
            exact ((step.has_actor own).mp owes).unlooked _ saw rfl
          refine .owed ((step.has_iff_of_ne Owes.not_nil ?_).mpr
            (owes.imp fun t owed => ⟨owed.1, owed.2.toOwes⟩))
          rintro _ ⟨⟩ _
          exact elsewhere
  | _ => cases decides

/-- Who empties the registry unwatched forgets the heartbeat. -/
theorem abandoned_of_unwatched (run : Run ({} : Machine e) trace m) (step : Step m l m')
    (unwatched : ¬ m.Watched l) (filled : m.shared.registry.isEmpty = false)
    (emptied : m'.shared.registry.isEmpty = true) : Abandoned (trace ++ [l]) m' := by
  have changed : m'.shared.registry ≠ m.shared.registry := by
    intro same
    rw [same, filled] at emptied
    cases emptied
  cases l with
  | began c => exact absurd (by rw [step.shared_of_began]) changed
  | dropped c => exact absurd (by rw [step.shared_of_dropped]) changed
  | did d =>
      have stirs : d.exchange.request.stirs = true := by
        by_contra quiet
        rw [step.shared, Shared.isEmpty_after_of_quiet _ _ (Bool.eq_false_iff.mpr quiet), filled]
          at emptied
        cases emptied
      obtain ⟨t, here, duty, _⟩ := step.actor
      obtain ⟨c, works⟩ := run.callOf here
      rw [duty] at works
      have careless : c.keepsBooks = false := by
        by_contra keeps
        exact unwatched ⟨d, c, rfl, stirs, works, Bool.not_eq_false _ ▸ keeps⟩
      exact ⟨trace, d, [], m, m', rfl, run, step, .refl m', filled, emptied,
        ⟨c, works, careless⟩, fun d' none => absurd none List.not_mem_nil⟩

/-- What is not a verdict leaves the latest one right, or makes a call owe another one, or forgets
the heartbeat. -/
theorem standing_of_undecided (run : Run ({} : Machine e) trace m) (step : Step m l m')
    (undecided : ∀ d, l = .did d → d.exchange.verdict? = none) (h : Standing trace m) :
    Standing (trace ++ [l]) m' := by
  by_cases watched : m.Watched l
  · obtain ⟨d, c, rfl, stirs, works, keeps⟩ := watched
    obtain ⟨j, owes⟩ := run.owes_of_stirs step stirs works keeps
    exact .owed owes
  obtain ⟨mark, shrinks⟩ := step.only_empties watched
  cases h with
  | owed owes =>
      exact .owed (step.has_mono Owes.not_nil (fun d same _ owes => owes.snoc (undecided d same))
        owes)
  | forgotten running empty abandoned =>
      exact .forgotten (mark.trans running) (shrinks empty) (abandoned.snoc step undecided)
  | right fits =>
      by_cases kept : m'.shared.wanted = m.shared.wanted
      · have latest : verdict (trace ++ [l]) = verdict trace :=
          verdict_append trace fun d happened => undecided d (List.mem_singleton.mp happened).symm
        exact .right (by rw [latest, fits, kept])
      · obtain ⟨running, filled, emptied⟩ := Shared.emptied_of_wanted_ne mark shrinks kept
        exact .forgotten (mark.trans running) emptied
          (run.abandoned_of_unwatched step watched filled emptied)

/-- In every run the latest verdict is right, or a call owes another one, or the heartbeat was
forgotten. -/
theorem standing (run : Run ({} : Machine e) trace m) : Standing trace m := by
  generalize start : ({} : Machine e) = first at run
  induction run with
  | refl =>
      subst start
      exact .right rfl
  | @snoc m m' trace l run step ih =>
      subst start
      by_cases decides : ∃ d b, l = .did d ∧ d.exchange.verdict? = some b
      · obtain ⟨d, b, rfl, decides⟩ := decides
        exact run.standing_of_verdict step decides
      · refine run.standing_of_undecided step (fun d same => ?_) ih
        by_contra some
        obtain ⟨b, decided⟩ := Option.ne_none_iff_exists'.mp some
        exact decides ⟨d, b, same, decided⟩

end Run

/-- No call is in progress. -/
def Machine.Quiet (m : Machine e) : Prop :=
  ∀ (i : Nat) (t : Thread e) (c : Call), m.threads[i]? = some t → t.duty = .call c →
    t.rest.ended?.isSome = true

namespace Machine.Quiet

theorem not_owes (quiet : m.Quiet) (i : Nat) : ¬ m.Has Owes i := by
  rintro ⟨t, here, ⟨c, duty, keeps⟩, ⟨x, inside, stirs⟩, undecided⟩
  obtain ⟨y, within, decides⟩ :=
    (t.booksKept duty keeps (quiet i t c here duty)).decided inside stirs
  rw [undecided y within] at decides
  cases decides

theorem not_locked (quiet : m.Quiet) (i : Nat) : ¬ m.Has (Raised locked unlocked) i := by
  rintro ⟨t, here, taken, ungiven⟩
  obtain ⟨c, duty, keeps⟩ := Duty.keepsBooks_of_mayAsk (t.mayAsk taken) trivial
  exact ungiven ((t.booksKept duty keeps (quiet i t c here duty)).released taken)

/-- No call is in progress if every task has ended. -/
theorem of_all (ended : m.threads.all (fun t => t.rest.ended?.isSome) = true) : m.Quiet :=
  fun _ t _ here _ => List.all_eq_true.mp ended t (List.mem_of_getElem? here)

end Machine.Quiet

/-- Who owes a verdict comes to it before it ends. -/
theorem Run.verdict_of_owes (run : Run m later m') (quiet : m'.Quiet) (owes : m.Has Owes i) :
    ∃ d, .did d ∈ later ∧ d.exchange.verdict?.isSome = true := by
  obtain ⟨t, here, ⟨c, duty, keeps⟩, ⟨x, inside, stirs⟩, undecided⟩ := owes
  obtain ⟨t', there, grows⟩ := run.grows here
  obtain ⟨more, past⟩ := grows.past
  have call : t'.duty = .call c := grows.duty.trans duty
  have kept := t'.booksKept call keeps (quiet i t' c there call)
  have stirred : x ∈ t'.past := past ▸ List.mem_append_left _ inside
  obtain ⟨y, within, decides⟩ := kept.decided stirred stirs
  rw [past] at within
  rcases List.mem_append.mp within with old | new
  · rw [undecided y old] at decides
    cases decides
  · obtain ⟨first, last, rfl⟩ := List.append_of_mem new
    exact ⟨_, run.deed_since here there (by rw [past, List.append_assoc]), decides⟩

/-- Once the engine is shut down it stays so. -/
theorem Run.isShutDown_mono (run : Run m trace m') (ended : m.shared.isShutDown = true) :
    m'.shared.isShutDown = true := by
  induction run with
  | refl => exact ended
  | @snoc middle m' trace l _ step ih =>
      by_cases again : ∃ d, l = .did d ∧ d.exchange.request = .shutDown
      · obtain ⟨d, rfl, asks⟩ := again
        rw [step.shared, asks]
        rfl
      · rw [step.isShutDown fun d same asks => again ⟨d, same, asks⟩, ih]

/-- Seeing to the heartbeat leaves the registry as it is. -/
theorem Forgets.undecided_deed {earlier : List Label} {before after : Machine e}
    (h : Forgets earlier d later before after m) : d.exchange.verdict? = none := by
  refine Exchange.verdict?_eq_none fun busy => ?_
  have emptied := h.emptied
  rw [h.step.shared, busy.harmless.registry, h.filled] at emptied
  cases emptied

/-- The latest verdict still wants a heartbeat that was forgotten. -/
theorem Abandoned.verdict_eq_true (h : Abandoned trace m) (quiet : m.Quiet)
    (running : m.shared.isShutDown = false) : verdict trace = true := by
  obtain ⟨earlier, d, later, before, after, rfl, forgets⟩ := h
  have rest : Run before (.did d :: later) m := (Run.single forgets.step).trans forgets.rest
  have undecided : ∀ d', .did d' ∈ .did d :: later → d'.exchange.verdict? = none := by
    intro d' inside
    rcases List.mem_cons.mp inside with same | late
    · obtain rfl := Label.did.inj same
      exact forgets.undecided_deed
    · exact forgets.undecided d' late
  rw [verdict_append earlier undecided]
  have standing : Standing earlier before := forgets.first.standing
  cases standing with
  | right fits =>
      have up : before.shared.isShutDown = false := by
        by_contra ended
        rw [rest.isShutDown_mono (Bool.not_eq_false _ ▸ ended)] at running
        cases running
      rw [fits, Shared.wanted, up, forgets.filled]
      rfl
  | owed owes =>
      obtain ⟨d', inside, decides⟩ := rest.verdict_of_owes quiet owes
      rw [undecided d' inside] at decides
      cases decides
  | forgotten _ empty =>
      rw [forgets.filled] at empty
      cases empty

theorem Registry.size_pos_iff {r : Registry} : 0 < r.size ↔ r.isEmpty = false := by
  rw [size, isEmpty, List.length_pos_iff, List.isEmpty_eq_false_iff]

/-- When no call is in progress, the heartbeat runs exactly if the engine has not been shut down
and connections are tracked, or if the last of them was given up for a call that does not see to
the heartbeat and no other call has come to a verdict since. -/
theorem Run.heartbeat_iff (run : Run ({} : Machine e) trace m) (quiet : m.Quiet) :
    m.shared.heartbeat.isSome = true ↔
      m.shared.isShutDown = false ∧ (0 < m.shared.registry.size ∨ Abandoned trace m) := by
  rw [run.booked.idle quiet.not_locked, Registry.size_pos_iff]
  constructor
  · intro on
    cases run.standing with
    | right fits =>
        rw [fits, Shared.wanted, Bool.and_eq_true, Bool.not_eq_true', Bool.not_eq_true'] at on
        exact ⟨on.1, .inl on.2⟩
    | owed owes => exact absurd owes (quiet.not_owes _)
    | forgotten running _ abandoned => exact ⟨running, .inr abandoned⟩
  · rintro ⟨running, filled | abandoned⟩
    · cases run.standing with
      | right fits =>
          rw [fits, Shared.wanted, running, filled]
          rfl
      | owed owes => exact absurd owes (quiet.not_owes _)
      | forgotten _ _ abandoned => exact abandoned.verdict_eq_true quiet running
    · exact abandoned.verdict_eq_true quiet running

namespace Run

/-- A token is acquired, a connection is tracked and then lost, and a pass gives it up. -/
def forgotten : Machine Engine.sample × List Label :=
  ({} : Machine Engine.sample).play
    (.begin (.acquire false) :: Move.tells 0 6 (Request.issuing ⟨"new", .max⟩) ++
      .begin (.established newcomer) :: Move.tells 1 8 Request.blank ++
      .drop newcomer :: .begin .reauthenticate :: Move.tells 2 3 Request.blank)

/-- No connection is tracked any more, and the heartbeat runs on. -/
theorem forgotten_heartbeat :
    forgotten.1.Quiet ∧ forgotten.1.shared.registry.size = 0 ∧
      forgotten.1.shared.heartbeat.isSome = true ∧ Abandoned forgotten.2 forgotten.1 := by
  have run : Run {} forgotten.2 forgotten.1 := Machine.play_run _ _
  have quiet : forgotten.1.Quiet := .of_all (by decide +kernel)
  have none : forgotten.1.shared.registry.size = 0 := by decide +kernel
  have running : forgotten.1.shared.heartbeat.isSome = true := by decide +kernel
  obtain ⟨_, tracked | abandoned⟩ := (run.heartbeat_iff quiet).mp running
  · rw [none] at tracked
    cases tracked
  · exact ⟨quiet, none, running, abandoned⟩

end Run
end TokenKeeper
