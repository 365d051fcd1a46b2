import Mathlib.Data.List.Range
import TokenKeeper.Proofs.Program.Alone

/-!
# The attempts of an acquisition

An identity service is known by what comes of each attempt. While the attempts fail and the
delays are answered, every attempt leaves the same three exchanges behind: the service was asked
with the deadline of that attempt, the policy was asked for the delay after that error, and the
delay was waited for. `attempts_follow_rounds` says that this is all that failed attempts do;
what the last attempt does is left to the acquisition.
-/

namespace TokenKeeper

/-- The deadlines that the identity service was given, one for each time it was asked. -/
def deadlines (past : List Exchange) : List Duration :=
  past.filterMap fun
    | ⟨.getToken limit, _⟩ => some limit
    | _ => none

/-- The failed attempts, with their errors, for which the policy was asked for a delay. -/
def delaysAsked (past : List Exchange) : List (Nat × IdentityError) :=
  past.filterMap fun
    | ⟨.backoff attempt error, _⟩ => some (attempt, error)
    | _ => none

/-- The delays that were waited for. -/
def pauses (past : List Exchange) : List Duration :=
  past.filterMap fun
    | ⟨.sleep d, _⟩ => some d
    | _ => none

/-- The events that subscribers were told. -/
def told (past : List Exchange) : List Event :=
  past.filterMap fun
    | ⟨.notify e, _⟩ => some e
    | _ => none

section append

variable (past later : List Exchange)

@[simp] theorem deadlines_append :
    deadlines (past ++ later) = deadlines past ++ deadlines later := List.filterMap_append

@[simp] theorem delaysAsked_append :
    delaysAsked (past ++ later) = delaysAsked past ++ delaysAsked later := List.filterMap_append

@[simp] theorem pauses_append :
    pauses (past ++ later) = pauses past ++ pauses later := List.filterMap_append

@[simp] theorem told_append : told (past ++ later) = told past ++ told later :=
  List.filterMap_append

end append

/-- An identity service, and whatever else is asked of the outside. -/
structure Service where
  /-- What comes of each attempt, counted from zero. -/
  reply : Nat → TokenReply
  /-- What the clocks and everybody else answer. -/
  others : (q : Request) → q.Answer

namespace Service

/-- Answers each attempt in turn, and asks for delays where the engine does. -/
def answerer (service : Service) (e : Engine) : Answerer := fun past q =>
  match q with
  | .getToken _ => service.reply (deadlines past).length
  | .backoff attempt error => e.policy.backoff attempt error
  | q => service.others q

end Service

namespace Engine

open Program (follow_bind_of_ok follow_bind_of_error)

/-- The error that an attempt fails with. An attempt without an answer fails with the whole
seconds of its deadline. -/
def failureOf? (e : Engine) (attempt : Nat) : TokenReply → Option IdentityError
  | .failed error => some error
  | .late => some (.timeout (e.policy.timeouts.forAttempt attempt).seconds)
  | _ => none

/-- An attempt fails with this error, and this delay follows it. -/
structure FailsWith (e : Engine) (service : Service) (attempt : Nat) (error : IdentityError)
    (delay : Duration) : Prop where
  failure : e.failureOf? attempt (service.reply attempt) = some error
  backoff : e.policy.backoff attempt error = .ok delay

/-- The exchanges of a failed attempt that is not the last one. -/
def round (e : Engine) (service : Service) (error : Nat → IdentityError) (delay : Nat → Duration)
    (attempt : Nat) : List Exchange :=
  [⟨.getToken (e.policy.timeouts.forAttempt attempt), service.reply attempt⟩,
   ⟨.backoff attempt (error attempt), .ok (delay attempt)⟩,
   ⟨.sleep (delay attempt), ()⟩]

/-- The exchanges of so many failed attempts. -/
def rounds (e : Engine) (service : Service) (error : Nat → IdentityError)
    (delay : Nat → Duration) (first count : Nat) : List Exchange :=
  (List.range' first count).flatMap (e.round service error delay)

section rounds

variable (e : Engine) (service : Service) (error : Nat → IdentityError) (delay : Nat → Duration)
variable (first count : Nat)

theorem rounds_succ :
    e.rounds service error delay first (count + 1) =
      e.round service error delay first ++ e.rounds service error delay (first + 1) count := by
  simp [rounds, List.range'_succ]

@[simp] theorem deadlines_rounds :
    deadlines (e.rounds service error delay first count) =
      (List.range' first count).map e.policy.timeouts.forAttempt := by
  induction count generalizing first with
  | zero => rfl
  | succ count ih =>
      rw [rounds_succ, deadlines_append, ih, List.range'_succ, List.map_cons]
      rfl

@[simp] theorem delaysAsked_rounds :
    delaysAsked (e.rounds service error delay first count) =
      (List.range' first count).map fun i => (i, error i) := by
  induction count generalizing first with
  | zero => rfl
  | succ count ih =>
      rw [rounds_succ, delaysAsked_append, ih, List.range'_succ, List.map_cons]
      rfl

@[simp] theorem pauses_rounds :
    pauses (e.rounds service error delay first count) =
      (List.range' first count).map delay := by
  induction count generalizing first with
  | zero => rfl
  | succ count ih =>
      rw [rounds_succ, pauses_append, ih, List.range'_succ, List.map_cons]
      rfl

@[simp] theorem told_rounds : told (e.rounds service error delay first count) = [] := by
  induction count generalizing first with
  | zero => rfl
  | succ count ih =>
      rw [rounds_succ, told_append, ih]
      rfl

/-- Failed attempts touch nothing that tasks share. -/
@[simp] theorem replay_rounds (s : Shared) (alive : Connection → Bool) :
    s.replay alive (e.rounds service error delay first count) = s := by
  apply Shared.replay_of_untouched
  intro x hx
  obtain ⟨i, _, hx⟩ := List.mem_flatMap.mp hx
  simp only [round, List.mem_cons, List.not_mem_nil, or_false] at hx
  rcases hx with rfl | rfl | rfl <;> exact fun _ => rfl

end rounds

section attempts

variable {e : Engine} {service : Service} {s : Shared} {alive : Connection → Bool}
variable {past : List Exchange} {first : Nat}

/-- One attempt asks the service once, and makes a failure of a missing answer. -/
theorem attempt_follow (asked : (deadlines past).length = first) :
    (e.attempt first).follow (s.answerer alive (service.answerer e)) past =
      ⟨past ++ [⟨.getToken (e.policy.timeouts.forAttempt first), service.reply first⟩],
        match service.reply first with
        | .issued t => .ok (.ok t)
        | .failed error => .ok (.error error)
        | .late => .ok (.error (.timeout (e.policy.timeouts.forAttempt first).seconds))
        | .panicked p => .error p⟩ := by
  have answered : s.answerer alive (service.answerer e) past
      (.getToken (e.policy.timeouts.forAttempt first)) = service.reply first := by
    simp [Shared.answerer, Shared.answer?, Service.answerer, asked]
  rw [attempt]
  simp only [Program.bind_eq, Program.request_eq, Program.ask_bind, Program.pure_bind,
    Program.follow_ask, answered]
  cases service.reply first <;> rfl

theorem attempt_follow_of_failure {error : IdentityError}
    (asked : (deadlines past).length = first)
    (failure : e.failureOf? first (service.reply first) = some error) :
    (e.attempt first).follow (s.answerer alive (service.answerer e)) past =
      ⟨past ++ [⟨.getToken (e.policy.timeouts.forAttempt first), service.reply first⟩],
        .ok (.error error)⟩ := by
  rw [attempt_follow asked]
  cases reply : service.reply first with
  | issued t => simp [reply, failureOf?] at failure
  | panicked p => simp [reply, failureOf?] at failure
  | failed other =>
      simp only [reply, failureOf?, Option.some.injEq] at failure
      rw [failure]
  | late =>
      simp only [reply, failureOf?, Option.some.injEq] at failure
      rw [← failure]

/-- A failed attempt with others left to follow is one round. -/
theorem attempts_follow_round {error : Nat → IdentityError} {delay : Nat → Duration} {left : Nat}
    (asked : (deadlines past).length = first)
    (fails : e.FailsWith service first (error first) (delay first)) :
    (e.attempts (left + 1) first).follow (s.answerer alive (service.answerer e)) past =
      (e.attempts left (first + 1)).follow (s.answerer alive (service.answerer e))
        (past ++ e.round service error delay first) := by
  rw [attempts, Program.bind_eq,
    follow_bind_of_ok (attempt_follow_of_failure asked fails.failure)]
  have answered (past : List Exchange) : s.answerer alive (service.answerer e) past
      (.backoff first (error first)) = .ok (delay first) := fails.backoff
  simp only [Program.bind_eq, Program.request_eq, Program.ask_bind, Program.pure_bind,
    Program.follow_ask, answered, Program.ofAnswer_ok, List.append_assoc, List.cons_append,
    List.nil_append]
  rfl

/-- Failed attempts are rounds, and the attempts that are left go on from there. -/
theorem attempts_follow_rounds {error : Nat → IdentityError} {delay : Nat → Duration}
    {count left : Nat} (asked : (deadlines past).length = first) (enough : count ≤ left)
    (fails : ∀ i, first ≤ i → i < first + count → e.FailsWith service i (error i) (delay i)) :
    (e.attempts left first).follow (s.answerer alive (service.answerer e)) past =
      (e.attempts (left - count) (first + count)).follow (s.answerer alive (service.answerer e))
        (past ++ e.rounds service error delay first count) := by
  induction count generalizing left first past with
  | zero => simp [rounds]
  | succ count ih =>
      obtain ⟨left, rfl⟩ : ∃ l, left = l + 1 := ⟨left - 1, by omega⟩
      have here := fails first (Nat.le_refl _) (by omega)
      have later : (e.attempts left (first + 1)).follow (s.answerer alive (service.answerer e))
          (past ++ e.round service error delay first) =
            (e.attempts (left - count) (first + 1 + count)).follow
              (s.answerer alive (service.answerer e)) (past ++ e.round service error delay first ++
                e.rounds service error delay (first + 1) count) :=
        ih (by simp [deadlines, round] at asked ⊢; omega) (by omega)
          fun i low high => fails i (by omega) (by omega)
      rw [attempts_follow_round asked here, later, rounds_succ, ← List.append_assoc]
      congr 2 <;> omega

end attempts

section ends

variable {e : Engine} {service : Service} {s : Shared} {alive : Connection → Bool}
variable {error : Nat → IdentityError} {delay : Nat → Duration} {last left : Nat}

/-- The exchange of the attempt that decides. -/
abbrev lastAsked (e : Engine) (service : Service) (attempt : Nat) : Exchange :=
  ⟨.getToken (e.policy.timeouts.forAttempt attempt), service.reply attempt⟩

/-- After failed attempts the one that follows is made with what is left. -/
theorem attempts_follow_last (enough : last ≤ left)
    (fails : ∀ i < last, e.FailsWith service i (error i) (delay i)) :
    (e.attempts left 0).follow (s.answerer alive (service.answerer e)) [] =
      (e.attempts (left - last) last).follow (s.answerer alive (service.answerer e))
        (e.rounds service error delay 0 last) := by
  have reached : (e.attempts left 0).follow (s.answerer alive (service.answerer e)) [] =
      (e.attempts (left - last) (0 + last)).follow (s.answerer alive (service.answerer e))
        ([] ++ e.rounds service error delay 0 last) :=
    attempts_follow_rounds rfl enough fun i _ high => fails i (by omega)
  rwa [Nat.zero_add, List.nil_append] at reached

theorem length_deadlines_rounds (e : Engine) (service : Service) (error : Nat → IdentityError)
    (delay : Nat → Duration) (count : Nat) :
    (TokenKeeper.deadlines (e.rounds service error delay 0 count)).length = count := by
  rw [deadlines_rounds, List.length_map, List.length_range']

/-- The first token ends the attempts. -/
theorem attempts_follow_of_issued {t : AccessToken} (enough : last ≤ left)
    (fails : ∀ i < last, e.FailsWith service i (error i) (delay i))
    (issued : service.reply last = .issued t) :
    (e.attempts left 0).follow (s.answerer alive (service.answerer e)) [] =
      ⟨e.rounds service error delay 0 last ++ [e.lastAsked service last], .ok (.ok t)⟩ := by
  have step : (e.attempt last).follow (s.answerer alive (service.answerer e))
      (e.rounds service error delay 0 last) =
        ⟨e.rounds service error delay 0 last ++ [e.lastAsked service last], .ok (.ok t)⟩ := by
    rw [attempt_follow (length_deadlines_rounds e service error delay last), lastAsked,
      issued]
  rw [attempts_follow_last enough fails, attempts.eq_def, Program.bind_eq,
    follow_bind_of_ok step]
  rfl

/-- Without a token the last attempt ends the attempts, and no delay follows it. -/
theorem attempts_follow_of_exhausted
    (fails : ∀ i < left, e.FailsWith service i (error i) (delay i))
    (failure : e.failureOf? left (service.reply left) = some (error left)) :
    (e.attempts left 0).follow (s.answerer alive (service.answerer e)) [] =
      ⟨e.rounds service error delay 0 left ++ [e.lastAsked service left],
        .ok (.error (error left))⟩ := by
  have step := @attempt_follow_of_failure e service s alive _ _ _
    (length_deadlines_rounds e service error delay left) failure
  rw [attempts_follow_last (Nat.le_refl left) fails, Nat.sub_self, attempts.eq_def,
    Program.bind_eq, follow_bind_of_ok step]
  rfl

/-- A panic of the service ends the attempts. -/
theorem attempts_follow_of_panic {p : Panic} (enough : last ≤ left)
    (fails : ∀ i < last, e.FailsWith service i (error i) (delay i))
    (panicked : service.reply last = .panicked p) :
    (e.attempts left 0).follow (s.answerer alive (service.answerer e)) [] =
      ⟨e.rounds service error delay 0 last ++ [e.lastAsked service last], .error p⟩ := by
  have step : (e.attempt last).follow (s.answerer alive (service.answerer e))
      (e.rounds service error delay 0 last) =
        ⟨e.rounds service error delay 0 last ++ [e.lastAsked service last], .error p⟩ := by
    rw [attempt_follow (length_deadlines_rounds e service error delay last), lastAsked,
      panicked]
  rw [attempts_follow_last enough fails, attempts.eq_def, Program.bind_eq,
    follow_bind_of_error step]

/-- A panic of the function that gives the delays ends the attempts. -/
theorem attempts_follow_of_backoff_panic {p : Panic} (enough : last < left)
    (fails : ∀ i < last, e.FailsWith service i (error i) (delay i))
    (failure : e.failureOf? last (service.reply last) = some (error last))
    (panicked : e.policy.backoff last (error last) = .error p) :
    (e.attempts left 0).follow (s.answerer alive (service.answerer e)) [] =
      ⟨e.rounds service error delay 0 last ++
        [e.lastAsked service last, ⟨.backoff last (error last), .error p⟩], .error p⟩ := by
  have step := @attempt_follow_of_failure e service s alive _ _ _
    (length_deadlines_rounds e service error delay last) failure
  have answered (past : List Exchange) : s.answerer alive (service.answerer e) past
      (.backoff last (error last)) = .error p := panicked
  obtain ⟨more, some⟩ : ∃ n, left - last = n + 1 := ⟨left - last - 1, by omega⟩
  rw [attempts_follow_last (Nat.le_of_lt enough) fails, some, attempts, Program.bind_eq,
    follow_bind_of_ok step]
  simp only [Program.bind_eq, Program.request_eq, Program.ask_bind, Program.pure_bind,
    Program.follow_ask, answered, Program.ofAnswer_error, Program.panic_bind,
    Program.follow_panic, List.append_assoc, List.cons_append, List.nil_append]

end ends
end Engine
end TokenKeeper
