import TokenKeeper.Proofs.Acquisition.Attempts
import TokenKeeper.Proofs.Acquisition.Install

/-!
# What an acquisition does

Of an acquisition that runs by itself everything is fixed by the first attempt that does not
fail: how often the service is asked and with which deadlines, after which errors a delay is
asked for and waited for, what the subscribers are told, what becomes of the store and what the
caller gets. If no attempt succeeds the number of attempts takes its place. Functions of the
application that panic end the acquisition on the spot and leave the store as it was.
-/

namespace TokenKeeper.Engine

open Program (follow_bind_of_ok follow_bind_of_error)

/-- What is seen of an acquisition by itself. -/
structure Account where
  /-- The deadlines that the identity service was asked with. -/
  deadlines : List Duration
  /-- The failed attempts, with their errors, after which a delay was asked for. -/
  delaysAsked : List (Nat × IdentityError)
  pauses : List Duration
  told : List Event
  /-- What the acquisition left behind. -/
  shared : Shared
  result : Except Panic (Except AuthError Acquisition)

/-- The account of an acquisition that ran by itself. -/
def accountOf (s : Shared) (alive : Connection → Bool)
    (run : Ending (Except AuthError Acquisition)) : Account where
  deadlines := deadlines run.past
  delaysAsked := delaysAsked run.past
  pauses := pauses run.past
  told := told run.past
  shared := s.replay alive run.past
  result := run.result

/-- Runs an acquisition by itself. -/
def acquireAlone (e : Engine) (service : Service) (s : Shared) (alive : Connection → Bool)
    (reportFailure : Bool) : Account :=
  accountOf s alive ((e.acquire reportFailure).follow (s.answerer alive (service.answerer e)) [])

/-- The account of so many attempts: after the first ones of them a delay was asked for, and
after the first of these it was waited for. -/
def tried (e : Engine) (error : Nat → IdentityError) (delay : Nat → Duration)
    (calls backoffs waits : Nat) (told : List Event) (shared : Shared)
    (result : Except Panic (Except AuthError Acquisition)) : Account where
  deadlines := (List.range calls).map e.policy.timeouts.forAttempt
  delaysAsked := (List.range backoffs).map fun i => (i, error i)
  pauses := (List.range waits).map delay
  told := told
  shared := shared
  result := result

section

variable {e : Engine} {service : Service} {s : Shared} {alive : Connection → Bool}
variable {error : Nat → IdentityError} {delay : Nat → Duration} {last backoffs : Nat}
variable {later : List Exchange}

/-- The account of failed attempts, of the deciding one and of what follows it. -/
theorem accountOf_rounds (result : Except Panic (Except AuthError Acquisition))
    (unasked : deadlines later = []) (unpaused : pauses later = [])
    (backedOff : (List.range last).map (fun i => (i, error i)) ++ delaysAsked later =
      (List.range backoffs).map fun i => (i, error i)) :
    accountOf s alive
        ⟨e.rounds service error delay 0 last ++ [e.lastAsked service last] ++ later, result⟩ =
      e.tried error delay (last + 1) backoffs last (told later) (s.replay alive later)
        result := by
  have state : s.replay alive
      (e.rounds service error delay 0 last ++ [e.lastAsked service last] ++ later) =
        s.replay alive later := by
    rw [Shared.replay_append, Shared.replay_append, replay_rounds]
    rfl
  rw [accountOf, tried, state, ← backedOff]
  congr 1
  · simp only [deadlines_append, deadlines_rounds, unasked, List.range_succ,
      List.map_append, List.append_nil, ← List.range_eq_range']
    rfl
  · simp only [delaysAsked_append, delaysAsked_rounds, List.append_assoc,
      ← List.range_eq_range']
    rfl
  · simp only [pauses_append, pauses_rounds, unpaused, List.append_nil,
      ← List.range_eq_range']
    exact List.append_nil _
  · simp only [told_append, told_rounds, List.nil_append]
    rfl

/-- The account of an acquisition whose attempts have ended with a token. -/
theorem acquireAlone_of_issued {t : AccessToken} {report : Bool}
    (enough : last ≤ e.policy.maxAttempts - 1)
    (fails : ∀ i < last, e.FailsWith service i (error i) (delay i))
    (issued : service.reply last = .issued t) :
    e.acquireAlone service s alive report =
      accountOf s alive ((e.install t report).follow (s.answerer alive (service.answerer e))
        (e.rounds service error delay 0 last ++ [e.lastAsked service last])) := by
  rw [acquireAlone, acquire, Program.bind_eq,
    follow_bind_of_ok (attempts_follow_of_issued enough fails issued)]

theorem acquireAlone_of_nameless {t : AccessToken} {report : Bool}
    (enough : last ≤ e.policy.maxAttempts - 1)
    (fails : ∀ i < last, e.FailsWith service i (error i) (delay i))
    (issued : service.reply last = .issued t) (nameless : e.nameFor? s.store t = none) :
    e.acquireAlone service s alive report =
      e.tried error delay (last + 1) last last [] s
        (.ok (if report then .error .missingUsername else .ok .failed)) := by
  have state : s.replay alive
      (e.rounds service error delay 0 last ++ [e.lastAsked service last]) = s := by
    rw [Shared.replay_append, replay_rounds]
    rfl
  rw [acquireAlone_of_issued enough fails issued,
    install_follow_of_nameless state report nameless]
  exact accountOf_rounds _ rfl rfl (List.append_nil _)

/-- Finding a name asks the service nothing, waits for nothing and tells nobody. -/
theorem seen_naming (store : TokenStore) (name : String) :
    deadlines (naming store name) = [] ∧ delaysAsked (naming store name) = [] ∧
      pauses (naming store name) = [] ∧ told (naming store name) = [] := by
  unfold naming
  split <;> exact ⟨rfl, rfl, rfl, rfl⟩

/-- The account where a name was found and more exchanges followed. -/
theorem accountOf_named {t : AccessToken} {name : String} {more : List Exchange}
    (known : e.nameFor? s.store t = some name)
    (result : Except Panic (Except AuthError Acquisition))
    (unasked : deadlines more = []) (undelayed : delaysAsked more = [])
    (unpaused : pauses more = []) :
    accountOf s alive ⟨e.rounds service error delay 0 last ++ [e.lastAsked service last] ++
        naming s.store name ++ more, result⟩ =
      e.tried error delay (last + 1) last last (told more) ((named s name).replay alive more)
        result := by
  obtain ⟨noDeadline, noDelay, noPause, silent⟩ := seen_naming s.store name
  have unaskedAll : deadlines (naming s.store name ++ more) = [] := by
    rw [deadlines_append, noDeadline, unasked, List.append_nil]
  have unpausedAll : pauses (naming s.store name ++ more) = [] := by
    rw [pauses_append, noPause, unpaused, List.append_nil]
  have undelayedAll : (List.range last).map (fun i => (i, error i)) ++
      delaysAsked (naming s.store name ++ more) = (List.range last).map fun i => (i, error i) := by
    rw [delaysAsked_append, noDelay, undelayed, List.append_nil, List.append_nil]
  rw [List.append_assoc, accountOf_rounds result unaskedAll unpausedAll undelayedAll,
    told_append, silent, Shared.replay_append, replay_naming known, List.nil_append]

/-- With a username, the expiry of the token decides. -/
theorem acquireAlone_of_named {t : AccessToken} {report : Bool} {name : String} {now : Instant}
    (enough : last ≤ e.policy.maxAttempts - 1)
    (fails : ∀ i < last, e.FailsWith service i (error i) (delay i))
    (issued : service.reply last = .issued t) (known : e.nameFor? s.store t = some name)
    (clock : service.others .now = now) :
    e.acquireAlone service s alive report =
      if s.store.accepts ⟨t.secret, now, t.expiresOn⟩ then
        e.tried error delay (last + 1) last last [.tokenRefreshed now t.expiresOn]
          { s with store := ⟨some ⟨t.secret, now, t.expiresOn⟩, some name⟩ }
          (.ok (.ok (.refreshed t.expiresOn)))
      else
        e.tried error delay (last + 1) last last [] (named s name) (.ok (.ok .unchanged)) := by
  have state : s.replay alive
      (e.rounds service error delay 0 last ++ [e.lastAsked service last]) = s := by
    rw [Shared.replay_append, replay_rounds]
    rfl
  have ready : s.replay alive (e.rounds service error delay 0 last ++
      [e.lastAsked service last] ++ naming s.store name) = named s name := by
    rw [Shared.replay_append, state, replay_naming known]
  have same : (named s name).store.accepts ⟨t.secret, now, t.expiresOn⟩ =
      s.store.accepts ⟨t.secret, now, t.expiresOn⟩ := rfl
  have offered := @offer_follow s alive t _ (service.answerer e) now _ ready clock
  rw [acquireAlone_of_issued enough fails issued, install_follow_of_named state report known,
    Program.follow_bind, offered, same]
  cases taken : s.store.accepts ⟨t.secret, now, t.expiresOn⟩ with
  | true =>
      simp only [if_true, Program.follow_pure]
      rw [accountOf_named known _ rfl rfl rfl]
      simp only [Shared.replay, List.foldl_cons, List.foldl_nil, Shared.after,
        TokenStore.offer_of_accepts (same.trans taken)]
      rfl
  | false =>
      simp only [Bool.false_eq_true, if_false, Program.follow_pure]
      rw [accountOf_named known _ rfl rfl rfl]
      simp only [Shared.replay, List.foldl_cons, List.foldl_nil, Shared.after,
        TokenStore.offer_of_not_accepts (same.trans taken)]
      rfl

/-- Without a token the subscribers are told of the last error, and nothing changes. -/
theorem acquireAlone_of_exhausted {report : Bool}
    (fails : ∀ i < e.policy.maxAttempts - 1, e.FailsWith service i (error i) (delay i))
    (failure : e.failureOf? (e.policy.maxAttempts - 1)
      (service.reply (e.policy.maxAttempts - 1)) = some (error (e.policy.maxAttempts - 1))) :
    e.acquireAlone service s alive report =
      e.tried error delay (e.policy.maxAttempts - 1 + 1) (e.policy.maxAttempts - 1)
        (e.policy.maxAttempts - 1)
        [.tokenRefreshFailed (error (e.policy.maxAttempts - 1))
          (s.store.current.map (·.expiresAt))] s
        (.ok (if report then .error (.identity (error (e.policy.maxAttempts - 1)))
          else .ok .failed)) := by
  have state : s.replay alive (e.rounds service error delay 0 (e.policy.maxAttempts - 1) ++
      [e.lastAsked service (e.policy.maxAttempts - 1)]) = s := by
    rw [Shared.replay_append, replay_rounds]
    rfl
  have answered : s.answerer alive (service.answerer e)
      (e.rounds service error delay 0 (e.policy.maxAttempts - 1) ++
        [e.lastAsked service (e.policy.maxAttempts - 1)]) .currentToken = s.store.current := by
    simp only [Shared.answerer, state, Shared.answer?, Option.getD_some]
  rw [acquireAlone, acquire, Program.bind_eq,
    follow_bind_of_ok (attempts_follow_of_exhausted fails failure)]
  simp only [Program.bind_eq, Program.request_eq, Program.ask_bind, Program.pure_bind,
    Program.follow_ask, Program.pure_eq, Program.follow_pure]
  rw [answered, List.append_assoc]
  refine accountOf_rounds _ ?_ ?_ ?_
  · rfl
  · rfl
  · exact List.append_nil _

/-- An acquisition ends on the spot when the service panics. -/
theorem acquireAlone_of_panic {p : Panic} {report : Bool}
    (enough : last ≤ e.policy.maxAttempts - 1)
    (fails : ∀ i < last, e.FailsWith service i (error i) (delay i))
    (panicked : service.reply last = .panicked p) :
    e.acquireAlone service s alive report =
      e.tried error delay (last + 1) last last [] s (.error p) := by
  rw [acquireAlone, acquire, Program.bind_eq,
    follow_bind_of_error (attempts_follow_of_panic enough fails panicked)]
  have ended := @accountOf_rounds e service s alive error delay last last [] (.error p) rfl rfl
    (List.append_nil _)
  rw [List.append_nil] at ended
  exact ended

/-- It also ends when the function that gives the delays panics. -/
theorem acquireAlone_of_backoff_panic {p : Panic} {report : Bool}
    (enough : last < e.policy.maxAttempts - 1)
    (fails : ∀ i < last, e.FailsWith service i (error i) (delay i))
    (failure : e.failureOf? last (service.reply last) = some (error last))
    (panicked : e.policy.backoff last (error last) = .error p) :
    e.acquireAlone service s alive report =
      e.tried error delay (last + 1) (last + 1) last [] s (.error p) := by
  rw [acquireAlone, acquire, Program.bind_eq,
    follow_bind_of_error (attempts_follow_of_backoff_panic enough fails failure panicked)]
  have asked : (List.range last).map (fun i => (i, error i)) ++ [(last, error last)] =
      (List.range (last + 1)).map fun i => (i, error i) := by
    rw [List.range_succ, List.map_append]
    rfl
  have split : [e.lastAsked service last, ⟨.backoff last (error last), .error p⟩] =
      [e.lastAsked service last] ++ [⟨.backoff last (error last), .error p⟩] := rfl
  rw [split, ← List.append_assoc]
  exact accountOf_rounds _ rfl rfl asked

end

/-- Every service leads to one of these ends: a token, a failure of the last attempt, or a
panic. -/
theorem exists_end (e : Engine) (service : Service) (left : Nat) :
    ∃ (error : Nat → IdentityError) (delay : Nat → Duration) (last : Nat), last ≤ left ∧
      (∀ i < last, e.FailsWith service i (error i) (delay i)) ∧
      ((∃ t, service.reply last = .issued t) ∨ (∃ p, service.reply last = .panicked p) ∨
        e.failureOf? last (service.reply last) = some (error last) ∧
          (last = left ∨ ∃ p, e.policy.backoff last (error last) = .error p)) := by
  let error (i : Nat) := (e.failureOf? i (service.reply i)).getD .cancelled
  let delay (i : Nat) := (e.policy.backoff i (error i)).toOption.getD .zero
  refine ⟨error, delay, ?_⟩
  have reply (i : Nat) : (∃ t, service.reply i = .issued t) ∨
      (∃ p, service.reply i = .panicked p) ∨
        e.failureOf? i (service.reply i) = some (error i) := by
    simp only [error]
    cases service.reply i with
    | issued t => exact .inl ⟨t, rfl⟩
    | panicked p => exact .inr (.inl ⟨p, rfl⟩)
    | failed => exact .inr (.inr rfl)
    | late => exact .inr (.inr rfl)
  induction left with
  | zero =>
      refine ⟨0, Nat.le_refl 0, fun i low => absurd low (Nat.not_lt_zero i), ?_⟩
      rcases reply 0 with issued | panicked | failure
      · exact .inl issued
      · exact .inr (.inl panicked)
      · exact .inr (.inr ⟨failure, .inl rfl⟩)
  | succ left ih =>
      obtain ⟨last, bound, fails, issued | panicked | ⟨failure, rfl | panics⟩⟩ := ih
      · exact ⟨last, by omega, fails, .inl issued⟩
      · exact ⟨last, by omega, fails, .inr (.inl panicked)⟩
      · cases waits : e.policy.backoff last (error last) with
        | error p => exact ⟨last, by omega, fails, .inr (.inr ⟨failure, .inr ⟨p, waits⟩⟩)⟩
        | ok d =>
            have here : e.FailsWith service last (error last) (delay last) := by
              refine ⟨failure, ?_⟩
              simp only [delay, waits]
              rfl
            refine ⟨last + 1, Nat.le_refl _, ?_, ?_⟩
            · intro i low
              rcases Nat.lt_succ_iff_lt_or_eq.mp low with low | rfl
              · exact fails i low
              · exact here
            · rcases reply (last + 1) with issued | panicked | failure
              · exact .inl issued
              · exact .inr (.inl panicked)
              · exact .inr (.inr ⟨failure, .inl rfl⟩)
      · exact ⟨last, by omega, fails, .inr (.inr ⟨failure, .inr panics⟩)⟩

/-- What an acquisition by itself does, from the first attempt that issues a token or from there
being none. The clauses on panics say where the application's functions cut it short. -/
theorem acquireAlone_spec (e : Engine) (service : Service) (s : Shared)
    (alive : Connection → Bool) (report : Bool) (error : Nat → IdentityError)
    (delay : Nat → Duration) :
    let account := e.acquireAlone service s alive report
    let tries := max e.policy.maxAttempts 1
    let now : Instant := service.others .now
    (∀ k t, k < tries → (∀ i < k, e.FailsWith service i (error i) (delay i)) →
      service.reply k = .issued t →
      (e.nameFor? s.store t = none →
        account = e.tried error delay (k + 1) k k [] s
          (.ok (if report then .error .missingUsername else .ok .failed))) ∧
      ∀ name, e.nameFor? s.store t = some name →
        ((∀ old, s.store.current = some old → old.expiresAt < t.expiresOn) →
          account = e.tried error delay (k + 1) k k [.tokenRefreshed now t.expiresOn]
            { s with store := ⟨some ⟨t.secret, now, t.expiresOn⟩, some name⟩ }
            (.ok (.ok (.refreshed t.expiresOn)))) ∧
        ∀ old, s.store.current = some old → t.expiresOn ≤ old.expiresAt →
          account = e.tried error delay (k + 1) k k []
            { s with store := ⟨some old, some name⟩ } (.ok (.ok .unchanged))) ∧
    ((∀ i < tries - 1, e.FailsWith service i (error i) (delay i)) →
      e.failureOf? (tries - 1) (service.reply (tries - 1)) = some (error (tries - 1)) →
      account = e.tried error delay tries (tries - 1) (tries - 1)
        [.tokenRefreshFailed (error (tries - 1)) (s.store.current.map (·.expiresAt))] s
        (.ok (if report then .error (.identity (error (tries - 1))) else .ok .failed))) ∧
    (∀ k p, k < tries → (∀ i < k, e.FailsWith service i (error i) (delay i)) →
      service.reply k = .panicked p →
      account = e.tried error delay (k + 1) k k [] s (.error p)) ∧
    ∀ k p, k < tries - 1 → (∀ i < k, e.FailsWith service i (error i) (delay i)) →
      e.failureOf? k (service.reply k) = some (error k) →
      e.policy.backoff k (error k) = .error p →
      account = e.tried error delay (k + 1) (k + 1) k [] s (.error p) := by
  intro account tries now
  have further : tries - 1 = e.policy.maxAttempts - 1 := by omega
  have all : tries = e.policy.maxAttempts - 1 + 1 := by omega
  refine ⟨?issued, ?exhausted, ?panicked, ?panicked_delay⟩
  case issued =>
    intro k t bound fails issued
    have enough : k ≤ e.policy.maxAttempts - 1 := by omega
    refine ⟨acquireAlone_of_nameless enough fails issued, ?_⟩
    intro name known
    have decided := @acquireAlone_of_named e service s alive error delay k t report name now
      enough fails issued known rfl
    constructor
    · intro later
      have taken : s.store.accepts ⟨t.secret, now, t.expiresOn⟩ = true := by
        unfold TokenStore.accepts
        cases current : s.store.current with
        | none => rfl
        | some old => exact decide_eq_true (later old current)
      rw [taken] at decided
      exact decided
    · intro old current notLater
      have refused : s.store.accepts ⟨t.secret, now, t.expiresOn⟩ = false := by
        simp only [TokenStore.accepts, current, decide_eq_false_iff_not, Instant.lt_def]
        exact Int.not_lt.mpr notLater
      rw [refused] at decided
      rw [← current]
      exact decided
  case exhausted =>
    rw [further, all]
    exact acquireAlone_of_exhausted
  case panicked =>
    intro k p bound fails panicked
    exact acquireAlone_of_panic (by omega) fails panicked
  case panicked_delay =>
    intro k p bound fails failure panicked
    exact acquireAlone_of_backoff_panic (by omega) fails failure panicked

/-- A policy of three attempts. -/
def threefold : RefreshPolicy := { maxAttempts := 3, backoff := .constant (.ofSeconds 5) }

/-- An engine that tries three times, with or without a username of its own. -/
def persistent (principal : Option String) : Engine := ⟨threefold, principal⟩

/-- A service that refuses, does not answer, and then does as it is told. -/
def hesitant (third : TokenReply) : Service where
  reply
    | 0 => .failed .cancelled
    | 1 => .late
    | _ => third
  others := Request.blank

/-- The errors of its first attempts, and that of a third one without an answer. -/
def hesitantError : Nat → IdentityError
  | 0 => .cancelled
  | 1 => .timeout 15
  | _ => .timeout 20

theorem seconds_second_deadline : (threefold.timeouts.forAttempt 1).seconds = 15 := rfl

theorem hesitant_fails (principal : Option String) (third : TokenReply) : ∀ i < 2,
    (persistent principal).FailsWith (hesitant third) i (hesitantError i) (.ofSeconds 5)
  | 0, _ => ⟨rfl, rfl⟩
  | 1, _ => ⟨congrArg (some ∘ IdentityError.timeout) seconds_second_deadline, rfl⟩

/-- A token that carries the object id `a`, and one that carries none. -/
def carrying : AccessToken := ⟨"h.eyJvaWQiOiJhIn0.s", .max⟩

def anonymous : AccessToken := ⟨"opaque", .max⟩

/-- The account of three attempts by a persistent engine with a hesitant service. -/
def thirdAttempt (principal : Option String) (told : List Event) (store : TokenStore)
    (result : Except AuthError Acquisition) : Account :=
  (persistent principal).tried hesitantError (fun _ => .ofSeconds 5) 3 2 2 told
    { store := store } (.ok result)

/-- The third attempt installs a token under the configured name or under the object id that the
token carries. It drops a token without a name, leaves a token in use that lasts as long, and
reports its own failure. -/
theorem acquireAlone_third_attempt :
    (persistent (some "app")).acquireAlone (hesitant (.issued anonymous)) {} (fun _ => true)
        false =
      thirdAttempt (some "app") [.tokenRefreshed default .max]
        ⟨some ⟨"opaque", default, .max⟩, some "app"⟩ (.ok (.refreshed .max)) ∧
    (persistent none).acquireAlone (hesitant (.issued carrying)) {} (fun _ => true) false =
      thirdAttempt none [.tokenRefreshed default .max]
        ⟨some ⟨carrying.secret, default, .max⟩, some "a"⟩ (.ok (.refreshed .max)) ∧
    (∀ report, (persistent none).acquireAlone (hesitant (.issued anonymous)) {} (fun _ => true)
        report =
      thirdAttempt none [] {} (if report then .error .missingUsername else .ok .failed)) ∧
    (persistent none).acquireAlone (hesitant (.issued carrying))
        { store := ⟨some ⟨"old", default, .max⟩, none⟩ } (fun _ => true) false =
      thirdAttempt none [] ⟨some ⟨"old", default, .max⟩, some "a"⟩ (.ok .unchanged) ∧
    (persistent none).acquireAlone (hesitant .late) {} (fun _ => true) true =
      thirdAttempt none [.tokenRefreshFailed (.timeout 20) none] {}
        (.error (.identity (.timeout 20))) := by
  have carried : Identity.objectId? carrying.secret = some "a" := by decide +kernel
  have carriesNone : Identity.objectId? anonymous.secret = none := by decide +kernel
  have named (current : Option Token) :=
    ((persistent none).nameFor?_of_unnamed ⟨current, none⟩ carrying rfl rfl).trans carried
  have nameless :=
    ((persistent none).nameFor?_of_unnamed ⟨none, none⟩ anonymous rfl rfl).trans carriesNone
  refine ⟨?configured, ?oid, ?nameless, ?unchanged, ?late⟩
  case configured =>
    have spec := acquireAlone_spec (persistent (some "app")) (hesitant (.issued anonymous)) {}
      (fun _ => true) false hesitantError fun _ => .ofSeconds 5
    have decided := (spec.1 2 anonymous (by decide) (hesitant_fails _ _) rfl).2 "app" rfl
    exact decided.1 fun old present => by cases present
  case oid =>
    have spec := acquireAlone_spec (persistent none) (hesitant (.issued carrying)) {}
      (fun _ => true) false hesitantError fun _ => .ofSeconds 5
    have decided := (spec.1 2 carrying (by decide) (hesitant_fails _ _) rfl).2 "a" (named none)
    exact decided.1 fun old present => by cases present
  case nameless =>
    intro report
    have spec := acquireAlone_spec (persistent none) (hesitant (.issued anonymous)) {}
      (fun _ => true) report hesitantError fun _ => .ofSeconds 5
    exact (spec.1 2 anonymous (by decide) (hesitant_fails _ _) rfl).1 nameless
  case unchanged =>
    have spec := acquireAlone_spec (persistent none) (hesitant (.issued carrying))
      { store := ⟨some ⟨"old", default, .max⟩, none⟩ } (fun _ => true) false hesitantError
      fun _ => .ofSeconds 5
    have decided := (spec.1 2 carrying (by decide) (hesitant_fails _ _) rfl).2 "a" (named _)
    exact decided.2 ⟨"old", default, .max⟩ rfl (Instant.le_refl .max)
  case late =>
    have spec := acquireAlone_spec (persistent none) (hesitant .late) {} (fun _ => true) true
      hesitantError fun _ => .ofSeconds 5
    exact spec.2.1 (hesitant_fails _ _) rfl

end TokenKeeper.Engine
