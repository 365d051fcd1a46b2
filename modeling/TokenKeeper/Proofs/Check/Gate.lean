import TokenKeeper.Proofs.Check.Course
import TokenKeeper.Proofs.Machine.Exclusion
import TokenKeeper.Proofs.Machine.Play
import TokenKeeper.Proofs.Pass.Governed

/-!
# One check at a time

A check is inside the gate from the moment it is let in until it leaves. It leaves by whatever way
its work ends, also by a panic. So there is never more than one check inside, the gate is free
whenever none is, and a check is turned away exactly if another one is inside. What was turned
away does nothing but see to the heartbeat.
-/

namespace TokenKeeper

open Engine

variable {e : Engine} {m m' : Machine e} {trace : List Label} {d : Deed} {i : Nat} {t : Thread e}
variable {c : Call} {past : List Exchange} {q : Request}

namespace Engine

/-- The exchanges of a check that has been let in and has not left. -/
abbrev Working (past : List Exchange) : Prop := Adds Request.IsInside [entered] past

theorem Working.mem (h : Working past) : entered ∈ past :=
  h.isPrefix.subset List.mem_cons_self

theorem Working.left_not_mem (h : Working past) : left ∉ past := by
  intro inside
  rcases Adds.mem h inside with first | asks | asks
  · cases List.mem_singleton.mp first
  · exact asks
  · exact asks

theorem Working.turnedAway_not_mem (h : Working past) : turnedAway ∉ past := by
  intro inside
  rcases Adds.mem h inside with first | asks | asks
  · cases List.mem_singleton.mp first
  · exact asks
  · exact asks

theorem InsideAsks.working (h : InsideAsks [entered] past q) : Working past ∧ q.IsInside := by
  cases h with
  | renew renewing asks => exact ⟨renewing.mono fun _ => .inl, .inl asks⟩
  | pass renewed passing asks =>
      exact ⟨(renewed.mono fun _ => .inl).trans (passing.mono fun _ => .inr),
        .inr asks.isPassing⟩

theorem InsideEnds.working {r : Except Panic Unit} (h : InsideEnds e [entered] past r) :
    Working past := by
  cases h with
  | broken renewing breaks => exact renewing.mono fun _ => .inl
  | served renewed passing ends =>
      exact (renewed.mono fun _ => .inl).trans (passing.mono fun _ => .inr)

/-- A check that has entered the gate has left it in the end. -/
theorem CheckEnds.left_mem {r : Except Panic Bool} (h : CheckEnds e past r)
    (inside : entered ∈ past) : left ∈ past := by
  cases h with
  | refused => cases List.mem_singleton.mp inside
  | broken done => simp
  | served done => simp

theorem CheckEnds.turnedAway_mem_iff {r : Except Panic Bool} (h : CheckEnds e past r) :
    turnedAway ∈ past ↔ r = .ok false := by
  cases h with
  | refused => simp
  | broken done =>
      refine iff_of_false ?_ nofun
      simpa using done.working.turnedAway_not_mem
  | served done =>
      refine iff_of_false ?_ (by simp)
      simpa using done.working.turnedAway_not_mem

namespace CheckAsks

/-- The gate is tried first of all. -/
theorem past_of_enter (h : CheckAsks e c past .tryEnter) : past = [] := by
  cases h with
  | enter => rfl
  | work asks =>
      rcases asks.working.2 with asks | asks
      · exact asks.elim
      · exact asks.elim
  | books background done reached => exact (syncHeartbeat_uses.reaches reached).1.elim

theorem enter_of_nil (h : CheckAsks e c [] q) : q = .tryEnter := by
  generalize none : [] = past at h
  cases h with
  | enter => rfl
  | work asks =>
      subst none
      exact absurd asks.working.1.mem List.not_mem_nil
  | leave done =>
      subst none
      exact absurd done.working.mem List.not_mem_nil
  | books background done reached =>
      obtain ⟨rfl, _⟩ := List.append_eq_nil_iff.mp none.symm
      generalize none : [] = gone at done
      cases done <;> simp at none

/-- Only a check that is inside leaves. -/
theorem working_of_leave (h : CheckAsks e c past .leave) : Working past := by
  cases h with
  | work asks => exact asks.working.1
  | leave done => exact done.working
  | books background done reached => exact (syncHeartbeat_uses.reaches reached).1.elim

/-- A check that was turned away only sees to the heartbeat. -/
theorem isHeartbeat (h : CheckAsks e c past q) (refused : turnedAway ∈ past) : q.IsHeartbeat := by
  cases h with
  | enter => cases refused
  | work asks => exact absurd refused asks.working.1.turnedAway_not_mem
  | leave done => exact absurd refused done.working.turnedAway_not_mem
  | books background done reached => exact (syncHeartbeat_uses.reaches reached).1

end CheckAsks
end Engine

namespace Call

theorem check_asks {resume : q.Answer → Program Output} (isCheck : c.isCheck = true)
    (reached : (c.program e).Reaches past (.ask q resume)) : CheckAsks e c past q := by
  cases c with
  | ensure => exact (ensure_meets.reaches reached fun _ _ _ _ => trivial).1
  | check => exact (check_meets.reaches reached fun _ _ _ _ => trivial).1
  | _ => cases isCheck

/-- Only checks come to the gate. -/
theorem isCheck_of_mayAsk (h : c.MayAsk q) (gate : q = .tryEnter ∨ q = .leave) :
    c.isCheck = true := by
  cases c with
  | ensure => rfl
  | check => rfl
  | _ => rcases gate with rfl | rfl <;> simp [MayAsk, Request.IsAcquiring, Request.IsPassing,
      Request.IsHeartbeat] at h

end Call

/-- Only checks come to the gate. -/
theorem Duty.check_of_mayAsk {duty : Duty} (h : duty.MayAsk q)
    (gate : q = .tryEnter ∨ q = .leave) : ∃ c, duty = .call c ∧ c.isCheck = true := by
  cases duty with
  | call c => exact ⟨c, rfl, Call.isCheck_of_mayAsk h gate⟩
  | worker pass job => rcases gate with rfl | rfl <;> exact h.elim

/-- A deed at the gate is one of a check itself. -/
theorem Deed.Sound.check_asks (sound : d.Sound e)
    (gate : d.exchange.request = .tryEnter ∨ d.exchange.request = .leave) :
    d.member = none ∧ ∃ c, d.duty = .call c ∧ c.isCheck = true ∧
      CheckAsks e c d.past d.exchange.request := by
  have own : d.member = none := Deed.member_eq_none sound (by
    rcases gate with same | same <;> rw [same] <;> rfl)
  obtain ⟨c, duty, isCheck⟩ := Duty.check_of_mayAsk (sound.mayAsk own) gate
  obtain ⟨resume, reached⟩ := sound.reaches own
  rw [duty] at reached
  exact ⟨own, c, duty, isCheck, Call.check_asks isCheck reached⟩

theorem Shared.gateBusy_after (s : Shared) (alive : Connection → Bool) (enter : q ≠ .tryEnter)
    (leave : q ≠ .leave) : (s.after alive q).gateBusy = s.gateBusy := by
  cases q with
  | tryEnter => exact absurd rfl enter
  | leave => exact absurd rfl leave
  | _ => rfl

/-- The gate is busy from the moment a check is let in until it leaves. -/
theorem gate_guards : Guards e (·.gateBusy) entered left where
  down := rfl
  taken := by
    intro m m' d step same
    have request : d.exchange.request = .tryEnter := congrArg (·.request) same
    obtain ⟨own, c, _, _, asks⟩ := step.sound.check_asks (.inl request)
    rw [request] at asks
    have first := asks.past_of_enter
    have free : true = !m.shared.gateBusy := step.answer same rfl
    refine ⟨own, by simp [first], by simp [first], by simpa using free, ?_⟩
    rw [step.shared, request]
    rfl
  given := by
    intro m m' d step same
    have request : d.exchange.request = .leave := congrArg (·.request) same
    obtain ⟨own, c, _, _, asks⟩ := step.sound.check_asks (.inr request)
    rw [request] at asks
    refine ⟨own, asks.working_of_leave.mem, asks.working_of_leave.left_not_mem, ?_⟩
    rw [step.shared, request]
    rfl
  kept := by
    intro m m' d step unentered unleft
    rw [step.shared]
    obtain ⟨j, duty, member, past, ⟨q, a⟩⟩ := d
    by_cases enter : q = .tryEnter
    · subst enter
      have answered : a = !m.shared.gateBusy := step.answer rfl rfl
      cases a with
      | true => exact absurd rfl unentered
      | false =>
          have busy : m.shared.gateBusy = true := by simpa using answered
          exact busy.symm
    · by_cases leave : q = .leave
      · subst leave
        exact absurd rfl unleft
      · exact Shared.gateBusy_after _ _ enter leave

/-- A check is inside the gate. -/
def Machine.Inside (m : Machine e) (i : Nat) : Prop := m.Has (Raised entered left) i

/-- A request that asks nothing of the identity service or of an endpoint and leaves the store and
the registry as they are. -/
structure Request.Harmless (q : Request) : Prop where
  tokenless : ∀ limit, q ≠ .getToken limit
  authless : ∀ endpoint username secret, q ≠ .auth endpoint username secret
  store : ∀ (s : Shared) (alive : Connection → Bool), (s.after alive q).store = s.store
  registry : ∀ (s : Shared) (alive : Connection → Bool), (s.after alive q).registry = s.registry

theorem Request.harmless_of_tryEnter : Request.tryEnter.Harmless :=
  ⟨nofun, nofun, fun _ _ => rfl, fun _ _ => rfl⟩

theorem Request.IsHeartbeat.harmless (h : q.IsHeartbeat) : q.Harmless := by
  cases q with
  | lockHeartbeat | unlockHeartbeat | isShutDown | registryIsEmpty | heartbeatIsRunning
  | startHeartbeat | stopHeartbeat => exact ⟨nofun, nofun, fun _ _ => rfl, fun _ _ => rfl⟩
  | _ => exact h.elim

/-- How a check has ended: at the gate, and then with the heartbeat if it was in the background.
A panic is the result of a call and goes no further in the background. -/
theorem Thread.check_ended {r : Except Panic Output} (duty : t.duty = .call c)
    (isCheck : c.isCheck = true) (ended : t.rest.ended? = some r) :
    ∃ gone b books, CheckEnds e gone b ∧ t.past = gone ++ books ∧
      (∀ x ∈ books, x.request.IsHeartbeat) ∧ (b.isOk = false → books = []) ∧
      (c = .ensure → r = b.map .flag) ∧ (c = .check → r = .ok .done) := by
  cases c with
  | ensure =>
      obtain ⟨b, done, result⟩ := t.ends duty ended Call.ensure_meets
      exact ⟨t.past, b, [], done, (List.append_nil _).symm, by simp, fun _ => rfl,
        fun _ => result, nofun⟩
  | check =>
      obtain ⟨result, gone, b, books, done, past, kept⟩ := t.ends duty ended Call.check_meets
      refine ⟨gone, b, books, done, past, ?_, ?_, nofun, fun _ => result⟩
      · cases b with
        | ok b => exact syncHeartbeat_uses.of_mem kept
        | error p =>
            rw [kept]
            simp
      · intro broken
        cases b with
        | ok b => cases broken
        | error p => exact kept
  | _ => cases isCheck

/-- What a check is about to ask. -/
theorem Thread.check_asks {resume : q.Answer → Program Output} (duty : t.duty = .call c)
    (isCheck : c.isCheck = true) (rest : t.rest = .ask q resume) : CheckAsks e c t.past q := by
  have reached := t.sound
  rw [duty, rest] at reached
  exact Call.check_asks isCheck reached

/-- A check has done nothing yet, or it is at work inside the gate, or it is through with the gate
and sees to the heartbeat, or it has ended with a panic. -/
theorem Thread.check_course (duty : t.duty = .call c) (isCheck : c.isCheck = true) :
    t.past = [] ∨ Working t.past ∨
      ∃ gone b books, CheckEnds e gone b ∧ t.past = gone ++ books ∧
        (∀ x ∈ books, x.request.IsHeartbeat) ∧
        ∀ p, b = .error p → books = [] ∧ ∃ r, t.rest.ended? = some r ∧
          (c = .ensure → r = .error p) ∧ (c = .check → r = .ok .done) := by
  cases ended : t.rest.ended? with
  | some r =>
      obtain ⟨gone, b, books, done, past, only, broken, caller, background⟩ :=
        t.check_ended duty isCheck ended
      refine .inr (.inr ⟨gone, b, books, done, past, only, ?_⟩)
      rintro p rfl
      exact ⟨broken rfl, r, rfl, caller, background⟩
  | none =>
      cases rest : t.rest with
      | pure output => rw [rest] at ended; cases ended
      | panic p => rw [rest] at ended; cases ended
      | ask q resume =>
          have asks := t.check_asks duty isCheck rest
          generalize t.past = past at asks
          cases asks with
          | enter => exact .inl rfl
          | work asks => exact .inr (.inl asks.working.1)
          | leave done => exact .inr (.inl done.working)
          | books background done reached =>
              refine .inr (.inr ⟨_, _, _, done, rfl, syncHeartbeat_uses.of_mem reached, ?_⟩)
              intro p broken
              cases broken

/-- A check that has done nothing is at the gate. -/
theorem Thread.asks_to_enter (duty : t.duty = .call c) (isCheck : c.isCheck = true)
    (unbegun : t.past = []) : ∃ resume, t.rest = .ask .tryEnter resume := by
  have reached := t.sound
  rw [duty, unbegun] at reached
  generalize none : [] = past at reached
  generalize start : Duty.program e (.call c) = program at reached
  cases reached with
  | refl =>
      cases c with
      | ensure => exact ⟨_, start.symm⟩
      | check => exact ⟨_, start.symm⟩
      | _ => cases isCheck
  | ask => cases none

/-- A task that has ended is not inside the gate, however it ended. -/
theorem Thread.not_inside_of_ended (ended : t.rest.ended?.isSome = true) :
    ¬ Raised entered left t.duty t.past := by
  rintro ⟨inside, unleft⟩
  obtain ⟨r, ended⟩ := Option.isSome_iff_exists.mp ended
  obtain ⟨c, duty, isCheck⟩ := Duty.check_of_mayAsk (t.mayAsk inside) (.inl rfl)
  obtain ⟨gone, b, books, done, past, only, _⟩ := t.check_ended duty isCheck ended
  rw [past] at inside unleft
  rcases List.mem_append.mp inside with first | later
  · exact unleft (List.mem_append_left _ (done.left_mem first))
  · exact only _ later

/-- A check that has ended was turned away, or it has left the gate. -/
theorem Thread.check_result {r : Except Panic Output} (duty : t.duty = .call c)
    (isCheck : c.isCheck = true) (ended : t.rest.ended? = some r) :
    (c = .ensure → (r = .ok (.flag false) ↔ turnedAway ∈ t.past)) ∧
      ((∀ x ∈ t.past.tail, x.request.IsHeartbeat) ↔ turnedAway ∈ t.past) := by
  obtain ⟨gone, b, books, done, past, only, _, result, _⟩ := t.check_ended duty isCheck ended
  have refused : turnedAway ∈ t.past ↔ b = .ok false := by
    rw [past, List.mem_append, done.turnedAway_mem_iff]
    exact or_iff_left fun later => only _ later
  rw [refused]
  constructor
  · rintro rfl
    rw [result rfl]
    cases b with
    | error p => exact iff_of_false nofun nofun
    | ok b => cases b <;> simp [Except.map]
  · have leaves {work : List Exchange} (working : Working work) :
        left ∈ (work ++ [left] ++ books).tail := by
      obtain ⟨since, rfl, _⟩ := working
      simp
    rw [past]
    cases done with
    | refused => exact iff_of_true only rfl
    | broken done => exact iff_of_false (fun idle => idle left (leaves done.working)) nofun
    | served done => exact iff_of_false (fun idle => idle left (leaves done.working)) nofun

/-- A check that was turned away and its workers only see to the heartbeat. -/
theorem Run.refused_deed (run : Run ({} : Machine e) trace m) (isCheck : c.isCheck = true)
    (refused : .did ⟨i, .call c, none, [], turnedAway⟩ ∈ trace) (happened : .did d ∈ trace)
    (part : d.InPass i) : d.exchange.request = .tryEnter ∨ d.exchange.request.IsHeartbeat := by
  obtain ⟨t, later, here, duty, past⟩ := run.recorded refused rfl
  have own {d : Deed} (happened : .did d ∈ trace) (same : d.thread = i) :
      d.exchange.request = .tryEnter ∨ d.exchange.request.IsHeartbeat := by
    subst same
    obtain ⟨t', there, call⟩ := run.actor happened
    obtain rfl := Option.some.inj (there.symm.trans here)
    rw [duty] at call
    have alone := run.own_of_call happened call.symm
    obtain ⟨t', more, there, _, deed⟩ := run.recorded happened alone
    obtain rfl := Option.some.inj (there.symm.trans here)
    rw [past] at deed
    cases first : d.past with
    | nil =>
        rw [first] at deed
        rw [← (List.cons.inj deed).1]
        exact .inl rfl
    | cons x earlier =>
        obtain ⟨resume, reached⟩ := (run.sound happened).reaches alone
        rw [← call] at reached
        rw [first] at deed
        obtain rfl : turnedAway = x := (List.cons.inj deed).1
        refine .inr ((Call.check_asks isCheck reached).isHeartbeat ?_)
        rw [first]
        exact List.mem_cons_self
  rcases part with same | ⟨after, job, worker⟩
  · exact own happened same
  · -- A check that was turned away has not started any worker.
    obtain ⟨t', there, same⟩ := run.actor happened
    obtain ⟨_, _, _, spawned⟩ := (run.history (Nat.zero_le _) there).origin i job
      (same.trans worker)
    rcases own spawned rfl with asks | asks
    · cases asks
    · exact asks.elim

/-- How a check fared that has tried the gate. -/
structure Fared (trace : List Label) (m : Machine e) (i : Nat) (c : Call) (t : Thread e)
    (admitted : Bool) : Prop where
  /-- It was turned away exactly if another check was inside at that moment. -/
  busy : ∃ (earlier later : List Label) (before : Machine e),
    trace = earlier ++ .did ⟨i, .call c, none, [], ⟨.tryEnter, admitted⟩⟩ :: later ∧
      Run {} earlier before ∧ (admitted = false ↔ ∃ j, before.Inside j)
  /-- The caller is told so. -/
  answered : c = .ensure → ∀ r, t.rest.ended? = some r → (r = .ok (.flag false) ↔ admitted = false)
  /-- A check in the background has only seen to the heartbeat exactly if it was turned away. -/
  idle : c = .check → t.rest.ended?.isSome = true →
    ((∀ x ∈ t.past.tail, x.request.IsHeartbeat) ↔ admitted = false)
  /-- What was turned away has done no harm. -/
  harmless : admitted = false → ∀ d, .did d ∈ trace → d.InPass i → d.exchange.request.Harmless

/-- In every run, whatever the policy, the backends and the endpoints do, at most one check is
inside the gate, the gate is busy exactly while one is, a check that has ended in any way is not
inside, the next check is admitted once none is, and a check is turned away exactly if another
one is inside when it comes. -/
theorem Run.single_flight (run : Run ({} : Machine e) trace m) :
    (∀ i j, m.Inside i → m.Inside j → i = j) ∧
    (m.shared.gateBusy = true ↔ ∃ i, m.Inside i) ∧
    (∀ i t, m.threads[i]? = some t → t.rest.ended?.isSome = true → ¬ m.Inside i) ∧
    (∀ i t c, m.threads[i]? = some t → t.duty = .call c → c.isCheck = true → t.past = [] →
      (∀ j, ¬ m.Inside j) → ∃ m', Step m (.did ⟨i, .call c, none, [], entered⟩) m') ∧
    ∀ i t c, m.threads[i]? = some t → t.duty = .call c → c.isCheck = true → t.past ≠ [] →
      ∃ admitted, Fared trace m i c t admitted := by
  have exclusive := gate_guards.run run
  refine ⟨exclusive.one, exclusive.up, ?gone, ?admits, ?fared⟩
  case gone =>
    rintro i t here ended ⟨t', there, inside⟩
    obtain rfl := Option.some.inj (there.symm.trans here)
    exact t'.not_inside_of_ended ended inside
  case admits =>
    intro i t c here duty isCheck unbegun free
    obtain ⟨resume, asks⟩ := t.asks_to_enter duty isCheck unbegun
    have permits : m.Permits t.members .tryEnter true := by
      intro b known
      obtain rfl := Option.some.inj known
      cases busy : m.shared.gateBusy with
      | false => rfl
      | true =>
          obtain ⟨j, inside⟩ := exclusive.up.mp busy
          exact absurd inside (free j)
    have step := Step.tell here asks permits
    rw [duty, unbegun] at step
    exact ⟨_, step⟩
  case fared =>
    intro i t c here duty isCheck begun
    have kept := run.history (Nat.zero_le i) here
    obtain ⟨x, rest, past⟩ := List.exists_cons_of_ne_nil begun
    have first := kept.own [] x rest past
    rw [duty] at first
    obtain ⟨q, admitted⟩ := x
    obtain ⟨resume, reached⟩ := (run.sound first).reaches rfl
    obtain rfl : q = .tryEnter := (Call.check_asks isCheck reached).enter_of_nil
    have refused : turnedAway ∈ t.past ↔ admitted = false := by
      constructor
      · intro inside
        obtain ⟨earlier, later, cut, deed⟩ := kept.own.of_mem inside
        obtain ⟨_, c', _, _, asks⟩ := (run.sound deed).check_asks (.inl rfl)
        obtain rfl : earlier = [] := asks.past_of_enter
        rw [past] at cut
        cases cut
        rfl
      · rintro rfl
        rw [past]
        exact List.mem_cons_self
    refine ⟨admitted, ?busy, ?answered, ?idle, ?harmless⟩
    case busy =>
      obtain ⟨earlier, later, rfl⟩ := List.append_of_mem first
      obtain ⟨before, after, start, step, _⟩ := run.cut
      refine ⟨earlier, later, before, rfl, start, ?_⟩
      have answer : admitted = !before.shared.gateBusy := step.answer rfl rfl
      have up : before.shared.gateBusy = true ↔ ∃ j, before.Inside j := (gate_guards.run start).up
      rw [← up, answer, Bool.not_eq_false']
    case answered =>
      intro caller r ended
      rw [← refused]
      exact (t.check_result duty isCheck ended).1 caller
    case idle =>
      intro _ ended
      obtain ⟨r, ended⟩ := Option.isSome_iff_exists.mp ended
      rw [← refused]
      exact (t.check_result duty isCheck ended).2
    case harmless =>
      rintro rfl d happened part
      rcases run.refused_deed isCheck first happened part with enters | books
      · rw [enters]
        exact Request.harmless_of_tryEnter
      · exact books.harmless

/-- An engine of an application whose rule for renewing the token panics. -/
def Engine.panicky : Engine :=
  ⟨{ RefreshPolicy.standard with refreshDue := .custom fun _ _ => .error (.text "no rule") },
    some "app"⟩

namespace Run

/-- A token is acquired. One check enters the gate, a second one is turned away, and the first one
ends with the panic of the rule. A third check waits at the gate. -/
def crowded : Machine Engine.panicky × List Label :=
  ({} : Machine Engine.panicky).play
    (.begin (.acquire false) :: Move.tells 0 6 (Request.issuing ⟨"new", .max⟩) ++
      .begin .check :: Move.tells 1 1 Request.blank ++
      .begin .ensure :: Move.tells 2 1 Request.blank ++ Move.tells 1 4 Request.blank ++
      [.begin .ensure])

/-- The second check was turned away because the first one was inside. After the panic nobody is
inside, and the third check can enter. -/
theorem crowded_single_flight :
    (crowded.1.threads[1]?.map fun t => t.past.getLast?) = some (some left) ∧
    (∀ i, ¬ crowded.1.Inside i) ∧
    (∃ m', Step crowded.1 (.did ⟨3, .call .ensure, none, [], entered⟩) m') ∧
    ∃ t, crowded.1.threads[2]? = some t ∧ Fared crowded.2 crowded.1 2 .ensure t false := by
  have run : Run {} crowded.2 crowded.1 := Machine.play_run _ _
  obtain ⟨_, busy, _, admits, fared⟩ := run.single_flight
  have free : ∀ i, ¬ crowded.1.Inside i := by
    intro i inside
    have up := busy.mpr ⟨i, inside⟩
    have down : crowded.1.shared.gateBusy = false := by decide +kernel
    rw [down] at up
    cases up
  refine ⟨by decide +kernel, free, ?_, ?_⟩
  · have waits : (crowded.1.threads[3]?.map fun t => (t.duty, t.past)) =
        some (.call .ensure, []) := by decide +kernel
    obtain ⟨t, here, same⟩ := Option.map_eq_some_iff.mp waits
    obtain ⟨duty, past⟩ := Prod.mk.inj same
    exact admits 3 t .ensure here duty rfl past free
  · have refused : (crowded.1.threads[2]?.map fun t => (t.duty, t.past)) =
        some (.call .ensure, [turnedAway]) := by decide +kernel
    obtain ⟨t, here, same⟩ := Option.map_eq_some_iff.mp refused
    obtain ⟨duty, past⟩ := Prod.mk.inj same
    obtain ⟨admitted, entry⟩ := fared 2 t .ensure here duty rfl (by simp [past])
    have done : (crowded.1.threads[2]?.any fun t => t.rest.ended?.isSome) = true := by
      decide +kernel
    rw [here] at done
    obtain ⟨r, ended⟩ := Option.isSome_iff_exists.mp done
    have told := ((t.check_result duty rfl ended).1 rfl).mpr (by simp [past])
    exact ⟨t, here, (entry.answered rfl r ended).mp told ▸ entry⟩

end Run
end TokenKeeper
