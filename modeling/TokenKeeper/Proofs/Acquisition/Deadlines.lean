import TokenKeeper.Proofs.Acquisition.Delays

/-!
# The deadlines of the attempts

The deadline of an attempt is the first one and as many steps as attempts came before, and it stops
at the longest duration. Stopping on the way to the sum is the same as stopping at its end, so only
the bound itself can be told from exact arithmetic. An acquisition gives its attempts these
deadlines in their order, whatever it is told on the way, and it makes no more attempts than the
policy allows.
-/

namespace TokenKeeper

namespace AttemptTimeouts

variable {t : AttemptTimeouts} {i j : Nat}

theorem nanos_forAttempt (t : AttemptTimeouts) (attempt : Nat) :
    (t.forAttempt attempt).nanos =
      min (t.initial.nanos + t.increment.nanos * attempt) Duration.maxNanos := by
  rw [forAttempt, Duration.nanos_add, Duration.nanos_scale]
  change min (_ + min _ _) _ = _
  omega

theorem forAttempt_pos (lasts : t.initial.nanos ≠ 0) (attempt : Nat) :
    0 < (t.forAttempt attempt).nanos := by
  have limit : 0 < Duration.maxNanos := by decide
  rw [nanos_forAttempt]
  omega

theorem forAttempt_mono (order : i ≤ j) : (t.forAttempt i).nanos ≤ (t.forAttempt j).nanos := by
  have steps : t.increment.nanos * i ≤ t.increment.nanos * j := Nat.mul_le_mul_left _ order
  rw [nanos_forAttempt, nanos_forAttempt]
  omega

end AttemptTimeouts

/-- A request for anything but a token. -/
def Request.isTokenless : Request → Bool
  | .getToken _ => false
  | _ => true

theorem deadlines_snoc_of_tokenless {q : Request} (tokenless : q.isTokenless = true)
    (past : List Exchange) (a : q.Answer) : deadlines (past ++ [⟨q, a⟩]) = deadlines past := by
  have none : deadlines [⟨q, a⟩] = [] := by
    cases q with
    | getToken => cases tokenless
    | _ => rfl
  rw [deadlines_append, none, List.append_nil]

/-- What holds after all exchanges by which a program may go on or end holds wherever it gets. -/
theorem Program.Meets.holds {α : Type} {inv : List Exchange → Prop} {p rest : Program α}
    {past : List Exchange}
    (contract : p.Meets (fun _ _ => True) (fun past _ => inv past) (fun past _ => inv past) [])
    (reached : p.Reaches past rest) : inv past := by
  have here := contract.reaches reached fun _ _ _ _ => trivial
  cases rest with
  | pure a => exact here
  | panic e => exact here
  | ask q resume => exact here.1

namespace Engine

open Program (Meets uses_pure)

variable {e : Engine} {tries number left : Nat} {before past : List Exchange}

/-- The attempts so far have had the deadlines of their numbers, and they are not too many. -/
def Scheduled (e : Engine) (tries : Nat) (past : List Exchange) : Prop :=
  ∃ count ≤ tries, deadlines past = (List.range count).map e.policy.timeouts.forAttempt

theorem scheduled_free {q : Request} (tokenless : q.isTokenless = true) :
    q.Free (e.Scheduled tries) fun past _ => e.Scheduled tries past := by
  intro past so
  refine ⟨so, fun a => ?_⟩
  rwa [Scheduled, deadlines_snoc_of_tokenless tokenless]

/-- One attempt adds the deadline of its number. -/
theorem attempt_scheduled (few : number < tries)
    (asked : deadlines before = (List.range number).map e.policy.timeouts.forAttempt) :
    (e.attempt number).Meets (fun _ _ => True) (fun past _ => e.Scheduled tries past)
      (fun past _ => deadlines past = (List.range (number + 1)).map e.policy.timeouts.forAttempt)
      before := by
  refine ⟨⟨number, Nat.le_of_lt few, asked⟩, fun reply _ => ?_⟩
  have more : deadlines (before ++ [⟨.getToken (e.policy.timeouts.forAttempt number), reply⟩]) =
      (List.range (number + 1)).map e.policy.timeouts.forAttempt := by
    rw [deadlines_append, asked, List.range_succ, List.map_append]
    rfl
  cases reply with
  | issued t => exact more
  | failed error => exact more
  | late => exact more
  | panicked p => exact more

theorem attempts_scheduled (few : number + left < tries)
    (asked : deadlines before = (List.range number).map e.policy.timeouts.forAttempt) :
    (e.attempts left number).Meets (fun _ _ => True) (fun past _ => e.Scheduled tries past)
      (fun past _ => e.Scheduled tries past) before := by
  induction left generalizing number before with
  | zero =>
      rw [attempts]
      apply Meets.bind
      apply (attempt_scheduled few asked).mono (fun _ _ so => so)
      rintro past (p | error | t) asked
      · exact ⟨number + 1, few, asked⟩
      · exact ⟨number + 1, few, asked⟩
      · exact ⟨number + 1, few, asked⟩
  | succ left ih =>
      rw [attempts]
      apply Meets.bind
      apply (attempt_scheduled (by omega) asked).mono (fun _ _ so => so)
      rintro past (p | error | t) asked
      · exact ⟨number + 1, by omega, asked⟩
      · have so : e.Scheduled tries past := ⟨number + 1, by omega, asked⟩
        -- Neither the delay nor the pause asks for a token, so the next number is due.
        refine ⟨so, fun delay _ => ?_⟩
        have asked := (deadlines_snoc_of_tokenless rfl past delay).trans asked
        cases delay with
        | error p => exact ⟨number + 1, by omega, asked⟩
        | ok delay =>
            refine ⟨⟨number + 1, by omega, asked⟩, fun paused _ => ih (by omega) ?_⟩
            exact (deadlines_snoc_of_tokenless rfl _ paused).trans asked
      · exact ⟨number + 1, by omega, asked⟩

theorem offer_tokenless (t : AccessToken) : (offer t).Uses (·.isTokenless = true) := by
  refine ⟨rfl, fun now => ⟨rfl, fun taken => ?_⟩⟩
  cases taken with
  | true => exact ⟨rfl, fun _ => trivial⟩
  | false => trivial

theorem install_tokenless (t : AccessToken) (report : Bool) :
    (e.install t report).Uses (·.isTokenless = true) := by
  refine ⟨rfl, fun known => ?_⟩
  cases known with
  | some name => exact (offer_tokenless t).bind fun _ => uses_pure _
  | none =>
      simp only [Program.bind_eq, Program.pure_eq]
      split
      · exact ⟨rfl, fun _ => (offer_tokenless t).bind fun _ => uses_pure _⟩
      · trivial

theorem acquire_scheduled (report : Bool) :
    (e.acquire report).Meets (fun _ _ => True)
      (fun past _ => e.Scheduled (e.policy.maxAttempts - 1 + 1) past)
      (fun past _ => e.Scheduled (e.policy.maxAttempts - 1 + 1) past) [] := by
  apply Meets.bind
  apply (attempts_scheduled (by omega) rfl).mono (fun _ _ so => so)
  rintro past (p | error | t) so
  · exact so
  · have rest : ((Program.request .currentToken).bind fun current =>
        (Program.request (.notify (.tokenRefreshFailed error (current.map (·.expiresAt))))).bind
          fun _ => (Program.pure (if report then .error (.identity error) else .ok .failed) :
            Program (Except AuthError Acquisition))).Uses (·.isTokenless = true) :=
      ⟨rfl, fun _ => ⟨rfl, fun _ => trivial⟩⟩
    exact rest.keeps (fun _ => scheduled_free) past so
  · exact (install_tokenless t report).keeps (fun _ => scheduled_free) past so

end Engine

theorem RefreshPolicy.of_validate {p : RefreshPolicy} (valid : p.validate = .ok ()) :
    p.maxAttempts ≠ 0 ∧ p.heartbeat.nanos ≠ 0 ∧ p.timeouts.initial.nanos ≠ 0 := by
  unfold validate at valid
  split at valid
  · cases valid
  split at valid
  · cases valid
  split at valid
  · cases valid
  exact ⟨‹_›, ‹_›, ‹_›⟩

/-- The deadline of an attempt is the exact sum, up to the longest duration. With a valid policy an
acquisition makes no more attempts than it may, their deadlines are those of their numbers, and
these are positive and never decrease. -/
theorem deadlines_exact :
    (∀ (t : AttemptTimeouts) (attempt : Nat), (t.forAttempt attempt).nanos =
      min (t.initial.nanos + t.increment.nanos * attempt) 18446744073709551615999999999) ∧
    ∀ (e : Engine) (report : Bool) (past : List Exchange)
      (rest : Program (Except AuthError Acquisition)),
      e.policy.validate = .ok () → (e.acquire report).Reaches past rest →
      (∃ count ≤ e.policy.maxAttempts,
        deadlines past = (List.range count).map e.policy.timeouts.forAttempt) ∧
      (∀ d ∈ deadlines past, 0 < d.nanos) ∧
      (deadlines past).Pairwise fun earlier later => earlier.nanos ≤ later.nanos := by
  refine ⟨AttemptTimeouts.nanos_forAttempt, ?_⟩
  intro e report past rest valid reached
  obtain ⟨some, -, lasts⟩ := RefreshPolicy.of_validate valid
  obtain ⟨count, few, asked⟩ := (Engine.acquire_scheduled report).holds reached
  refine ⟨⟨count, by omega, asked⟩, ?_, ?_⟩
  · rw [asked]
    exact List.forall_mem_map.mpr fun i _ => AttemptTimeouts.forAttempt_pos lasts i
  · rw [asked, List.pairwise_map]
    exact List.pairwise_le_range.imp AttemptTimeouts.forAttempt_mono

/-- An engine whose second deadline is as long as can be. -/
def steep : Engine where
  policy := { maxAttempts := 2, timeouts := ⟨.ofSeconds 1, .max⟩, backoff := .constant .zero,
              refreshDue := .expirationMargin 60 }
  principal := none

/-- The acquisition of a steep engine whose service never answers. -/
def steepRun : Ending (Except AuthError Acquisition) :=
  (steep.acquire false).follow
    (({} : Shared).answerer (fun _ => true) (silentService.answerer steep)) []

theorem deadlines_steepRun : deadlines steepRun.past = [.ofSeconds 1, .max] := by
  have fails (i : Nat) : steep.FailsWith silentService i
      (.timeout (steep.policy.timeouts.forAttempt i).seconds) .zero := ⟨rfl, rfl⟩
  have account : steep.acquireAlone silentService {} (fun _ => true) false = _ :=
    Engine.acquireAlone_of_exhausted (fun i _ => fails i) (fails 1).failure
  exact congrArg Engine.Account.deadlines account

/-- Both of its attempts are made, the second one with the longest deadline there is. -/
theorem deadlines_up_to_the_limit :
    steep.policy.validate = .ok () ∧
      (∃ rest, (steep.acquire false).Reaches steepRun.past rest) ∧
      deadlines steepRun.past = [.ofSeconds 1, .max] ∧
      (∀ d ∈ deadlines steepRun.past, 0 < d.nanos) ∧
      (deadlines steepRun.past).Pairwise fun earlier later => earlier.nanos ≤ later.nanos := by
  have valid : steep.policy.validate = .ok () := rfl
  obtain ⟨past, same, reached⟩ : ∃ past, steepRun.past = [] ++ past ∧
      (steep.acquire false).Reaches past (.ofAnswer steepRun.result) :=
    Program.follow_reaches _ [] _
  obtain rfl : steepRun.past = past := same
  obtain ⟨-, lasts, order⟩ := deadlines_exact.2 steep false _ _ valid reached
  exact ⟨valid, ⟨_, reached⟩, deadlines_steepRun, lasts, order⟩

end TokenKeeper
