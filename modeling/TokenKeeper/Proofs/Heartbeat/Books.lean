import TokenKeeper.Proofs.Check.Gate

/-!
# The books of the heartbeat

A call that sees to the heartbeat does so last of all and under a lock. It comes to a verdict,
whether the heartbeat is wanted, and then starts or stops it as the verdict demands. Since one
call at a time has the lock, the heartbeat runs exactly if the latest verdict wanted it, at every
moment at which nobody has the lock.
-/

namespace TokenKeeper

open Engine
open Program (Meets)

variable {e : Engine} {m m' : Machine e} {trace : List Label} {l : Label} {d : Deed} {i : Nat}
variable {past before since : List Exchange} {q : Request}

instance Request.decidableIsHeartbeat : DecidablePred Request.IsHeartbeat := fun q => by
  unfold Request.IsHeartbeat
  split <;> infer_instance

/-- Requests that can change whether the heartbeat is wanted. -/
def Request.stirs : Request → Bool
  | track _ _ | stale _ | untrack _ | shutDown => true
  | _ => false

theorem Request.IsAcquiring.stirs_eq_false (h : q.IsAcquiring) : q.stirs = false := by
  cases q <;> first | rfl | exact h.elim

theorem Request.IsInside.not_isHeartbeat (h : q.IsInside) : ¬ q.IsHeartbeat := by
  rcases h with h | h <;> cases q <;> first | exact h.elim | exact id

/-- The exchanges of a task by which it sees to the heartbeat. -/
def books (past : List Exchange) : List Exchange := past.filter fun x => x.request.IsHeartbeat

@[simp] theorem books_append (past since : List Exchange) :
    books (past ++ since) = books past ++ books since := List.filter_append past since

theorem books_snoc {x : Exchange} (busy : x.request.IsHeartbeat) :
    books (past ++ [x]) = books past ++ [x] := by
  rw [books_append]
  simp [books, busy]

theorem books_snoc_of_other {x : Exchange} (other : ¬ x.request.IsHeartbeat) :
    books (past ++ [x]) = books past := by
  rw [books_append]
  simp [books, other]

theorem mem_books {x : Exchange} : x ∈ books past ↔ x ∈ past ∧ x.request.IsHeartbeat := by
  simp [books]

theorem books_eq_nil (quiet : ∀ x ∈ past, ¬ x.request.IsHeartbeat) : books past = [] := by
  simpa [books] using quiet

theorem books_eq_self (busy : ∀ x ∈ past, x.request.IsHeartbeat) : books past = past := by
  simpa [books] using busy

/-- A call has seen to the heartbeat so far as its books say. -/
theorem books_of_reaches {rest : Program Unit} (quiet : books before = [])
    (reached : syncHeartbeat.Reaches since rest) : books (before ++ since) = since := by
  rw [books_append, quiet, List.nil_append, books_eq_self (syncHeartbeat_uses.of_mem reached)]

/-- Calls that see to the heartbeat. -/
def Call.keepsBooks : Call → Bool
  | established _ | stop _ | shutDown | check => true
  | _ => false

/-- A task sees to the heartbeat last of all. -/
structure KeepsBooks (past : List Exchange) (q : Request) : Prop where
  quiet : ¬ q.IsHeartbeat → books past = []
  busy : q.IsHeartbeat → ∃ resume, syncHeartbeat.Reaches (books past) (.ask q resume)

namespace KeepsBooks

theorem of_quiet (quiet : books past = []) (other : ¬ q.IsHeartbeat) : KeepsBooks past q :=
  ⟨fun _ => quiet, fun busy => absurd busy other⟩

theorem of_reaches {resume : q.Answer → Program Unit} (quiet : books before = [])
    (reached : syncHeartbeat.Reaches since (.ask q resume)) : KeepsBooks (before ++ since) q where
  quiet := fun other => absurd (syncHeartbeat_uses.reaches reached).1 other
  busy := fun _ => ⟨resume, by rwa [books_of_reaches quiet reached]⟩

end KeepsBooks

/-- In the end a task has seen to the heartbeat, unless it has stirred nothing. -/
def BooksKept (past : List Exchange) : Prop :=
  (books past = [] ∧ ∀ x ∈ past, x.request.stirs = false) ∨
    syncHeartbeat.Reaches (books past) (.pure ())

namespace BooksKept

/-- Who has stirred has seen to the heartbeat. -/
theorem ends (h : BooksKept past) {x : Exchange} (inside : x ∈ past)
    (stirs : x.request.stirs = true) : SyncEnds (books past) := by
  rcases h with ⟨_, idle⟩ | reached
  · rw [idle x inside] at stirs
    cases stirs
  · exact (syncHeartbeat_meets.reaches reached fun _ _ _ _ => trivial).2

/-- What was stirred has been followed by a verdict. -/
theorem decided (h : BooksKept past) {x : Exchange} (inside : x ∈ past)
    (stirs : x.request.stirs = true) : ∃ x ∈ past, x.verdict?.isSome = true := by
  obtain ⟨y, within, decides⟩ := (h.ends inside stirs).decided
  exact ⟨y, (mem_books.mp within).1, decides⟩

/-- The lock that was taken has been given back. -/
theorem released (h : BooksKept past) (taken : locked ∈ past) : unlocked ∈ past := by
  rcases h with ⟨quiet, _⟩ | reached
  · have busy : locked ∈ books past := mem_books.mpr ⟨taken, trivial⟩
    rw [quiet] at busy
    cases busy
  · have ends := (syncHeartbeat_meets.reaches reached fun _ _ _ _ => trivial).2
    exact (mem_books.mp ends.given).1

end BooksKept

namespace Engine

/-- Whatever a call has done before, it keeps its books if it sees to the heartbeat then. -/
theorem syncHeartbeat_keeps (quiet : books before = []) :
    syncHeartbeat.Meets (fun _ _ => True) KeepsBooks (fun past r => r = .ok () ∧ BooksKept past)
      before := by
  refine (Program.meets_reaches syncHeartbeat before).mono ?_ ?_
  · rintro _ q ⟨since, resume, rfl, reached⟩
    exact .of_reaches quiet reached
  · rintro _ r ⟨since, rfl, reached⟩
    cases r with
    | ok _ => exact ⟨rfl, .inr (by rwa [books_of_reaches quiet reached])⟩
    | error p => cases (syncHeartbeat_meets.reaches reached fun _ _ _ _ => trivial).1

theorem Working.books_eq_nil (h : Working past) : books past = [] := by
  apply TokenKeeper.books_eq_nil
  intro x inside busy
  rcases Adds.mem h inside with first | asks
  · obtain rfl := List.mem_singleton.mp first
    exact busy
  · exact asks.not_isHeartbeat busy

theorem CheckEnds.books_eq_nil {r : Except Panic Bool} (h : CheckEnds e past r) :
    books past = [] := by
  have leaves : books [left] = [] := rfl
  cases h with
  | refused => rfl
  | broken done => rw [books_append, done.working.books_eq_nil, leaves, List.append_nil]
  | served done => rw [books_append, done.working.books_eq_nil, leaves, List.append_nil]

theorem CheckAsks.keepsBooks {c : Call} (h : CheckAsks e c past q) : KeepsBooks past q := by
  cases h with
  | enter => exact .of_quiet rfl id
  | work asks => exact .of_quiet asks.working.1.books_eq_nil asks.working.2.not_isHeartbeat
  | leave done => exact .of_quiet done.working.books_eq_nil id
  | books background done reached => exact .of_reaches done.books_eq_nil reached

/-- A check that was broken off has stirred nothing. -/
theorem CheckEnds.stirs_eq_false {p : Panic} (h : CheckEnds e past (.error p)) :
    ∀ x ∈ past, x.request.stirs = false := by
  cases h with
  | @broken work _ done =>
      cases done with
      | broken renewing breaks =>
          intro x inside
          rcases List.mem_append.mp inside with inside | last
          · rcases renewing.mem inside with first | asks
            · obtain rfl := List.mem_singleton.mp first
              rfl
            · exact Request.IsAcquiring.stirs_eq_false asks
          · obtain rfl := List.mem_singleton.mp last
            rfl

end Engine

/-- A call that keeps books sees to the heartbeat last of all, and it has done so in the end unless
it has stirred nothing. -/
theorem Call.keeps {c : Call} (keeps : c.keepsBooks = true) :
    (c.program e).Meets (fun _ _ => True) KeepsBooks (fun past _ => BooksKept past) [] := by
  have last {past : List Exchange} {α : Type} (quiet : books past = []) (a : α) (f : α → Output) :
      ((syncHeartbeat.bind fun _ => .pure a).bind fun a => .pure (f a)).Meets (fun _ _ => True)
        KeepsBooks (fun past _ => BooksKept past) past := by
    refine Meets.bind (Meets.bind
      ((syncHeartbeat_keeps quiet).mono (fun _ _ allowed => allowed) ?_))
    rintro past _ ⟨rfl, kept⟩
    exact kept
  cases c with
  | check =>
      refine Call.check_meets.mono (fun _ _ => CheckAsks.keepsBooks) ?_
      rintro past r ⟨_, gone, b, since, done, rfl, kept⟩
      cases b with
      | ok b => exact .inr (by rwa [books_of_reaches done.books_eq_nil kept])
      | error p =>
          obtain rfl : since = [] := kept
          rw [List.append_nil]
          exact .inl ⟨done.books_eq_nil, done.stirs_eq_false⟩
  | established c =>
      exact ⟨.of_quiet rfl id, fun current _ => ⟨.of_quiet rfl id, fun id _ => last rfl id _⟩⟩
  | stop id =>
      exact ⟨.of_quiet rfl (fun busy => busy), fun removed _ => last rfl removed .flag⟩
  | shutDown =>
      refine ⟨.of_quiet rfl id, fun _ _ => Meets.bind ?_⟩
      refine (syncHeartbeat_keeps rfl).mono (fun _ _ allowed => allowed) ?_
      rintro past _ ⟨rfl, kept⟩
      exact kept
  | _ => cases keeps

theorem Thread.booksKept {t : Thread e} {c : Call} (duty : t.duty = .call c)
    (keeps : c.keepsBooks = true) (ended : t.rest.ended?.isSome = true) : BooksKept t.past := by
  obtain ⟨r, ended⟩ := Option.isSome_iff_exists.mp ended
  exact t.ends duty ended (Call.keeps keeps)

/-- Only calls that keep books see to the heartbeat. -/
theorem Duty.keepsBooks_of_mayAsk {duty : Duty} (h : duty.MayAsk q) (busy : q.IsHeartbeat) :
    ∃ c, duty = .call c ∧ c.keepsBooks = true := by
  cases duty with
  | call c =>
      refine ⟨c, rfl, ?_⟩
      cases c with
      | acquire => exact (Request.IsInside.not_isHeartbeat (.inl h) busy).elim
      | reauthenticate => exact (Request.IsInside.not_isHeartbeat (.inr h) busy).elim
      | ensure =>
          rcases h with rfl | rfl | inside
          · exact busy.elim
          · exact busy.elim
          · exact (inside.not_isHeartbeat busy).elim
      | credential => rcases h with rfl | rfl | rfl | rfl | rfl <;> exact busy.elim
      | _ => rfl
  | worker pass job => cases q <;> first | exact h.elim | exact busy.elim

/-- Every task keeps its books. -/
theorem Deed.Sound.keepsBooks (sound : d.Sound e) (own : d.member = none) :
    KeepsBooks d.past d.exchange.request := by
  obtain ⟨resume, reached⟩ := sound.reaches own
  by_cases keeps : ∃ c, d.duty = .call c ∧ c.keepsBooks = true
  · obtain ⟨c, duty, keeps⟩ := keeps
    rw [duty] at reached
    exact ((Call.keeps keeps).reaches reached fun _ _ _ _ => trivial).1
  · refine .of_quiet (books_eq_nil fun x inside busy => keeps ?_) fun busy => keeps ?_
    · exact Duty.keepsBooks_of_mayAsk (d.duty.program_uses.of_mem reached x inside) busy
    · exact Duty.keepsBooks_of_mayAsk (sound.mayAsk own) busy

/-- A deed of the heartbeat is one of the task itself, at that point of its books. -/
theorem Deed.Sound.books (sound : d.Sound e) (busy : d.exchange.request.IsHeartbeat) :
    d.member = none ∧ SyncAsks (books d.past) d.exchange.request := by
  have own := Deed.member_eq_none sound (by
    cases q : d.exchange.request <;> rw [q] at busy <;> first | rfl | exact busy.elim)
  obtain ⟨resume, reached⟩ := (sound.keepsBooks own).busy busy
  exact ⟨own, (syncHeartbeat_meets.reaches reached fun _ _ _ _ => trivial).1⟩

/-- Who sees to the heartbeat has the lock, unless it is about to take it. -/
theorem Deed.Sound.held (sound : d.Sound e) (busy : d.exchange.request.IsHeartbeat)
    (other : d.exchange.request ≠ .lockHeartbeat) : Raised locked unlocked d.duty d.past := by
  obtain ⟨taken, given⟩ := (sound.books busy).2.holding other
  exact ⟨(mem_books.mp taken).1, fun inside => given (mem_books.mpr ⟨inside, trivial⟩)⟩

/-- The lock is free when it is taken. -/
theorem Step.lock_free (step : Step m (.did d) m') (takes : d.exchange.request = .lockHeartbeat) :
    m.shared.heartbeatLocked = false := by
  obtain ⟨i, duty, member, past, q, a⟩ := d
  obtain rfl : q = .lockHeartbeat := takes
  cases step with
  | tell here asks permits => exact permits
  | tellMember here inside asks permits => exact permits

theorem Shared.heartbeatLocked_after (s : Shared) (alive : Connection → Bool)
    (take : q ≠ .lockHeartbeat) (give : q ≠ .unlockHeartbeat) :
    (s.after alive q).heartbeatLocked = s.heartbeatLocked := by
  cases q with
  | lockHeartbeat => exact absurd rfl take
  | unlockHeartbeat => exact absurd rfl give
  | _ => rfl

/-- The lock of the heartbeat is held from the moment it is taken until it is given back. -/
theorem lock_guards : Guards e (·.heartbeatLocked) locked unlocked where
  down := rfl
  taken := by
    intro m m' d step same
    have request : d.exchange.request = .lockHeartbeat := congrArg (·.request) same
    obtain ⟨own, asks⟩ := step.sound.books (by rw [request]; trivial)
    have none := asks.first request
    have out {x : Exchange} (busy : x.request.IsHeartbeat) : x ∉ d.past := fun inside =>
      List.not_mem_nil (none ▸ mem_books.mpr ⟨inside, busy⟩)
    refine ⟨own, out trivial, out trivial, step.lock_free request, ?_⟩
    rw [step.shared, request]
    rfl
  given := by
    intro m m' d step same
    have request : d.exchange.request = .unlockHeartbeat := congrArg (·.request) same
    have busy : d.exchange.request.IsHeartbeat := by
      rw [request]
      trivial
    obtain ⟨inside, out⟩ := step.sound.held busy (by rw [request]; nofun)
    refine ⟨(step.sound.books busy).1, inside, out, ?_⟩
    rw [step.shared, request]
    rfl
  kept := by
    intro m m' d step untaken ungiven
    rw [step.shared]
    obtain ⟨j, duty, member, past, q, a⟩ := d
    apply Shared.heartbeatLocked_after
    · rintro rfl
      exact untaken rfl
    · rintro rfl
      exact ungiven rfl

/-- A task that has the lock and has come to know something. -/
structure Saw (x : Exchange) (duty : Duty) (past : List Exchange) : Prop where
  held : Raised locked unlocked duty past
  saw : x ∈ past

/-- What nobody is told in a step is known after it only to those who knew it before. -/
theorem Step.saw {x : Exchange} (step : Step m l m') (busy : x.request.IsHeartbeat)
    (untold : ∀ d, l = .did d → d.exchange ≠ x) (saw : m'.Has (Saw x) i) : m.Has (Saw x) i := by
  by_cases own : ∃ d, l = .did d ∧ d.member = none ∧ d.thread = i
  · obtain ⟨d, rfl, own, rfl⟩ := own
    rw [step.has_actor own]
    obtain ⟨held, saw⟩ := (step.has_self own).mp saw
    have saw : x ∈ d.past := (List.mem_append.mp saw).resolve_right fun last =>
      untold d rfl (List.mem_singleton.mp last).symm
    refine ⟨⟨?_, fun given => held.2 (List.mem_append_left _ given)⟩, saw⟩
    refine (List.mem_append.mp held.1).resolve_right fun last => ?_
    have takes : d.exchange.request = .lockHeartbeat :=
      congrArg (·.request) (List.mem_singleton.mp last).symm
    have none := (step.sound.books (by rw [takes]; trivial)).2.first takes
    exact List.not_mem_nil (none ▸ mem_books.mpr ⟨saw, busy⟩)
  · exact (step.has_iff_of_ne (fun duty saw => not_raised_nil duty saw.held)
      fun d here none same => own ⟨d, here, none, same⟩).mp saw

namespace Exchange

variable {x : Exchange}

theorem verdict?_eq_none_of_ne (looks : x.request ≠ .isShutDown)
    (counts : x.request ≠ .registryIsEmpty) : x.verdict? = none := by
  obtain ⟨q, a⟩ := x
  cases q <;> first | rfl | exact absurd rfl looks | exact absurd rfl counts

theorem verdict?_eq_none (other : ¬ x.request.IsHeartbeat) : x.verdict? = none :=
  verdict?_eq_none_of_ne (fun looks => other (by rw [looks]; trivial))
    fun counts => other (by rw [counts]; trivial)

theorem starts_of_runs? (runs : x.runs? = some true) : x.request = .startHeartbeat := by
  obtain ⟨q, a⟩ := x
  cases q with
  | startHeartbeat => rfl
  | _ => cases runs

theorem runs?_eq_none (other : ¬ x.request.IsHeartbeat) : x.runs? = none := by
  obtain ⟨q, a⟩ := x
  cases q <;> first | rfl | exact absurd trivial other

end Exchange

/-- After a deed the heartbeat runs if the deed has started it, or as before. -/
theorem Step.heartbeat (step : Step m (.did d) m') :
    m'.shared.heartbeat.isSome = d.exchange.runs?.getD m.shared.heartbeat.isSome := by
  rw [step.shared]
  obtain ⟨i, duty, member, past, q, a⟩ := d
  cases q <;> rfl

/-- The exchange of a label. -/
def Label.exchange? : Label → Option Exchange
  | .did d => some d.exchange
  | _ => none

/-- The latest verdict on the heartbeat. -/
def verdict (trace : List Label) : Bool :=
  latestOf Exchange.verdict? false (trace.filterMap Label.exchange?)

theorem verdict_snoc (trace : List Label) (l : Label) :
    verdict (trace ++ [l]) = (l.exchange?.bind Exchange.verdict?).getD (verdict trace) := by
  rw [verdict, List.filterMap_append]
  cases exchange : l.exchange? with
  | none => simp [verdict, exchange]
  | some x => simp [verdict, exchange]

/-- Without a verdict the latest one stays. -/
theorem verdict_append (earlier : List Label) {later : List Label}
    (undecided : ∀ d, .did d ∈ later → d.exchange.verdict? = none) :
    verdict (earlier ++ later) = verdict earlier := by
  induction later using List.reverseRecOn with
  | nil => rw [List.append_nil]
  | append_singleton later l ih =>
      rw [← List.append_assoc, verdict_snoc, ih fun d inside => undecided d (by simp [inside])]
      cases l with
      | did d => rw [Label.exchange?, Option.bind_some, undecided d (by simp), Option.getD_none]
      | _ => rfl

/-- A task that has the lock, with the latest verdict, with whether the heartbeat runs, and with
whether it ran when the lock was taken. -/
structure InHand (verdict running before : Bool) (duty : Duty) (past : List Exchange) : Prop where
  held : Raised locked unlocked duty past
  verdict : verdict = latestOf Exchange.verdict? before (books past)
  running : running = latestOf Exchange.runs? before (books past)
  told : ∀ r, ⟨.heartbeatIsRunning, r⟩ ∈ books past → r = before

/-- The books of the heartbeat are in order. While nobody has the lock it runs as the latest verdict
wants it, and who has the lock is about to see to that. -/
structure Machine.Booked (m : Machine e) (verdict : Bool) : Prop where
  idle : (∀ i, ¬ m.Has (Raised locked unlocked) i) → m.shared.heartbeat.isSome = verdict
  busy : ∀ i, m.Has (Raised locked unlocked) i →
    ∃ before, m.Has (InHand verdict m.shared.heartbeat.isSome before) i

theorem InHand.snoc {v running before : Bool} {duty : Duty} {x : Exchange}
    (h : InHand v running before duty past) (busy : x.request.IsHeartbeat) (given : x ≠ unlocked)
    (told : ∀ r, x = ⟨.heartbeatIsRunning, r⟩ → r = before) :
    InHand (x.verdict?.getD v) (x.runs?.getD running) before duty (past ++ [x]) where
  held := by
    refine ⟨List.mem_append_left _ h.held.1, fun inside => ?_⟩
    rcases List.mem_append.mp inside with old | new
    · exact h.held.2 old
    · exact given (List.mem_singleton.mp new).symm
  verdict := by rw [books_snoc busy, latestOf_snoc, ← h.verdict]
  running := by rw [books_snoc busy, latestOf_snoc, ← h.running]
  told := by
    intro r inside
    rw [books_snoc busy] at inside
    rcases List.mem_append.mp inside with old | new
    · exact h.told r old
    · exact told r (List.mem_singleton.mp new).symm

section booked

variable {v : Bool}

/-- Who does not see to the heartbeat leaves the books as they are. -/
theorem Step.booked_of_other (step : Step m l m')
    (other : ∀ d, l = .did d → ¬ d.exchange.request.IsHeartbeat) (h : m.Booked v) :
    m'.Booked v := by
  have running : m'.shared.heartbeat.isSome = m.shared.heartbeat.isSome := by
    cases l with
    | began c => rw [step.shared_of_began]
    | dropped c => rw [step.shared_of_dropped]
    | did d => rw [step.heartbeat, Exchange.runs?_eq_none (other d rfl), Option.getD_none]
  have kept {d : Deed} (same : l = .did d) :
      Raised locked unlocked d.duty (d.past ++ [d.exchange]) ↔
        Raised locked unlocked d.duty d.past := by
    refine raised_snoc_iff ?_ ?_
    · intro takes
      exact other d same (by rw [takes]; trivial)
    · intro gives
      exact other d same (by rw [gives]; trivial)
  have raised {i : Nat} : m'.Has (Raised locked unlocked) i ↔ m.Has (Raised locked unlocked) i :=
    step.has_iff not_raised_nil fun d same _ => kept same
  refine ⟨fun free => ?_, fun i holds => ?_⟩
  · rw [running]
    exact h.idle fun i holds => free i (raised.mpr holds)
  · obtain ⟨before, hand⟩ := h.busy i (raised.mp holds)
    refine ⟨before, ?_⟩
    rw [running]
    refine (step.has_iff (fun duty hand => not_raised_nil duty hand.held)
      fun d same _ => ?_).mpr hand
    have quiet := other d same
    constructor
    · rintro ⟨held, verdict, running, told⟩
      rw [books_snoc_of_other quiet] at verdict running told
      exact ⟨(kept same).mp held, verdict, running, told⟩
    · rintro ⟨held, verdict, running, told⟩
      rw [← books_snoc_of_other quiet] at verdict running told
      exact ⟨(kept same).mpr held, verdict, running, told⟩

/-- Who takes the lock finds the heartbeat as the latest verdict wanted it. -/
theorem Step.booked_of_lock (step : Step m (.did d) m') (takes : d.exchange = locked)
    (before : m.Excludes (·.heartbeatLocked) locked unlocked)
    (after : m'.Excludes (·.heartbeatLocked) locked unlocked) (h : m.Booked v) :
    m'.Booked v := by
  obtain ⟨own, untaken, ungiven, low, high⟩ := lock_guards.taken step takes
  have request : d.exchange.request = .lockHeartbeat := congrArg (·.request) takes
  have asks := (step.sound.books (by rw [request]; trivial)).2
  have found : m.shared.heartbeat.isSome = v := by
    refine h.idle fun i holds => ?_
    rw [before.up.mpr ⟨i, holds⟩] at low
    cases low
  have same : m'.shared.heartbeat.isSome = v := by
    rw [step.heartbeat, takes]
    exact found
  have hand : m'.Has (InHand v m'.shared.heartbeat.isSome v) d.thread := by
    rw [step.has_self own, takes]
    have first : books (d.past ++ [locked]) = [locked] := by
      rw [books_snoc (x := locked) trivial, asks.first request, List.nil_append]
    refine ⟨⟨by simp, by simpa using ungiven⟩, by rw [first]; rfl, by rw [first, same]; rfl, ?_⟩
    intro r inside
    rw [first] at inside
    cases List.mem_singleton.mp inside
  have holder : m'.Has (Raised locked unlocked) d.thread := by
    obtain ⟨t, here, hand⟩ := hand
    exact ⟨t, here, hand.held⟩
  refine ⟨fun free => absurd holder (free _), fun i holds => ⟨v, ?_⟩⟩
  rwa [after.one i _ holds holder]

/-- Who gives the lock back has made the heartbeat run as the latest verdict wants it. -/
theorem Step.booked_of_unlock (step : Step m (.did d) m') (gives : d.exchange = unlocked)
    (after : m'.Excludes (·.heartbeatLocked) locked unlocked) (h : m.Booked v) :
    m'.Booked v := by
  obtain ⟨own, taken, ungiven, low⟩ := lock_guards.given step gives
  have request : d.exchange.request = .unlockHeartbeat := congrArg (·.request) gives
  have asks := (step.sound.books (by rw [request]; trivial)).2
  obtain ⟨before, hand⟩ := h.busy d.thread ((step.has_actor own).mpr ⟨taken, ungiven⟩)
  rw [step.has_actor own] at hand
  refine ⟨fun _ => ?_, fun i holds => ?_⟩
  · rw [step.heartbeat, gives, hand.verdict, ← asks.done request before hand.told]
    exact hand.running
  · rw [after.up.mpr ⟨i, holds⟩] at low
    cases low

/-- Who has the lock goes on with the books. -/
theorem Step.booked_of_holder (step : Step m (.did d) m') (busy : d.exchange.request.IsHeartbeat)
    (untaken : d.exchange ≠ locked) (ungiven : d.exchange ≠ unlocked)
    (after : m'.Excludes (·.heartbeatLocked) locked unlocked) (h : m.Booked v) :
    m'.Booked (d.exchange.verdict?.getD v) := by
  obtain ⟨own, asks⟩ := step.sound.books busy
  have holder : m.Has (Raised locked unlocked) d.thread :=
    (step.has_actor own).mpr (step.sound.held busy fun request => untaken (by
      obtain ⟨i, duty, member, past, q, a⟩ := d
      obtain rfl : q = .lockHeartbeat := request
      rfl))
  obtain ⟨before, hand⟩ := h.busy d.thread holder
  have hand' : m'.Has (InHand (d.exchange.verdict?.getD v) m'.shared.heartbeat.isSome before)
      d.thread := by
    rw [step.has_actor own] at hand
    rw [step.has_self own, step.heartbeat]
    refine hand.snoc busy ungiven fun r looks => ?_
    have answer : r = m.shared.heartbeat.isSome := step.answer looks rfl
    rw [answer, hand.running]
    exact asks.learning (by rw [looks]) before
  have holder' : m'.Has (Raised locked unlocked) d.thread := by
    obtain ⟨t, here, hand⟩ := hand'
    exact ⟨t, here, hand.held⟩
  refine ⟨fun free => absurd holder' (free _), fun i holds => ⟨before, ?_⟩⟩
  rwa [after.one i _ holds holder']

theorem Step.booked (step : Step m l m')
    (before : m.Excludes (·.heartbeatLocked) locked unlocked)
    (after : m'.Excludes (·.heartbeatLocked) locked unlocked) (h : m.Booked v) :
    m'.Booked ((l.exchange?.bind Exchange.verdict?).getD v) := by
  by_cases busy : ∃ d, l = .did d ∧ d.exchange.request.IsHeartbeat
  · obtain ⟨d, rfl, busy⟩ := busy
    change m'.Booked (d.exchange.verdict?.getD v)
    by_cases takes : d.exchange = locked
    · rw [takes]
      exact step.booked_of_lock takes before after h
    · by_cases gives : d.exchange = unlocked
      · rw [gives]
        exact step.booked_of_unlock gives after h
      · exact step.booked_of_holder busy takes gives after h
  · have other : ∀ d, l = .did d → ¬ d.exchange.request.IsHeartbeat :=
      fun d same asks => busy ⟨d, same, asks⟩
    have undecided : l.exchange?.bind Exchange.verdict? = none := by
      cases l with
      | did d => exact Exchange.verdict?_eq_none (other d rfl)
      | _ => rfl
    rw [undecided]
    exact step.booked_of_other other h

/-- In every run the books of the heartbeat are in order. -/
theorem Run.booked (run : Run ({} : Machine e) trace m) : m.Booked (verdict trace) := by
  generalize start : ({} : Machine e) = first at run
  induction run with
  | refl =>
      subst start
      refine ⟨fun _ => rfl, ?_⟩
      rintro i ⟨t, here, _⟩
      cases here
  | snoc run step ih =>
      subst start
      rw [verdict_snoc]
      exact step.booked (lock_guards.run run) (lock_guards.run (run.snoc step)) ih

end booked
end TokenKeeper
