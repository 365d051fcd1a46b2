import Mathlib.Order.Bounds.Defs
import TokenKeeper.Options.Basic

/-!
# The interval of the heartbeat

Options store the interval of the heartbeat in whole seconds: the fewest that are no shorter than
what was asked for, and at least one. With a fraction beyond the largest 64-bit number of seconds
there is no such number, and the second that the fraction adds makes the sum either panic or start
again from zero. In the latter case the longest intervals end up as the shortest one.
`heartbeat_rounds_up_iff` says that these are the only intervals for which rounding up fails.
-/

namespace TokenKeeper

variable {interval : Duration} {excess : Width.Excess} {n : Nat}

namespace Duration

theorem seconds_add_carry_le_iff (d : Duration) :
    d.seconds + d.carry ≤ n ↔ d.nanos ≤ n * nanosPerSecond := by
  unfold seconds carry subsecond nanosPerSecond
  split <;> omega

theorem nanos_ofSeconds (fits : n < 18446744073709551616) :
    (ofSeconds n).nanos = n * nanosPerSecond := by
  rw [ofSeconds, nanos_clamp]
  exact Nat.min_eq_left (by unfold maxNanos nanosPerSecond; omega)

theorem nanos_ofSeconds_ne_zero (positive : 1 ≤ n) : (ofSeconds n).nanos ≠ 0 := by
  rw [ofSeconds, nanos_clamp]
  change min _ _ ≠ 0
  unfold maxNanos nanosPerSecond
  omega

end Duration

/-- The fewest seconds, at least one, that are no shorter than a duration. -/
theorem isLeast_seconds (d : Duration) :
    IsLeast {n | 1 ≤ n ∧ d.nanos ≤ n * nanosPerSecond} (max 1 (d.seconds + d.carry)) := by
  constructor
  · exact ⟨Nat.le_max_left _ _, d.seconds_add_carry_le_iff.mp (Nat.le_max_right _ _)⟩
  · rintro n ⟨positive, enough⟩
    exact Nat.max_le.mpr ⟨positive, d.seconds_add_carry_le_iff.mpr enough⟩

/-- A second too many is the first number that has no 64 bits. -/
theorem seconds_add_carry_of_beyond
    (beyond : 18446744073709551615 * nanosPerSecond < interval.nanos) :
    interval.seconds + interval.carry = Width.bound64 := by
  have bound := interval.bounded
  unfold Duration.seconds Duration.carry Duration.subsecond Width.bound64
  unfold nanosPerSecond at beyond ⊢
  split <;> omega

namespace Options

variable {o : Options}

/-- Options that describe a valid policy, whatever becomes of the heartbeat. -/
structure OtherwiseValid (o : Options) : Prop where
  attempts : o.unchecked.maxAttempts ≠ 0
  deadline : o.unchecked.timeouts.initial.nanos ≠ 0
  due : o.unchecked.refreshDue.validate = .ok ()

theorem refreshPolicy_of_heartbeat (valid : o.OtherwiseValid) (positive : 1 ≤ n) :
    ({ o with heartbeatSeconds := some n } : Options).refreshPolicy =
      .ok { o.unchecked with heartbeat := .ofSeconds n } := by
  have checked : ({ o.unchecked with heartbeat := .ofSeconds n } : RefreshPolicy).validate =
      .ok () := by
    rw [RefreshPolicy.validate, if_neg valid.attempts,
      if_neg (Duration.nanos_ofSeconds_ne_zero positive), if_neg valid.deadline]
    exact valid.due
  exact congrArg (Except.map fun _ => { o.unchecked with heartbeat := .ofSeconds n }) checked

theorem policy_of_fitting (valid : o.OtherwiseValid)
    (fits : interval.nanos ≤ 18446744073709551615 * nanosPerSecond) :
    (o.setHeartbeat? excess interval).map refreshPolicy =
      some (.ok { o.unchecked with
        heartbeat := .ofSeconds (max 1 (interval.seconds + interval.carry)) }) := by
  have short := interval.seconds_add_carry_le_iff.mpr fits
  rw [setHeartbeat?, Width.sum64?_of_lt (Nat.lt_succ_of_le short)]
  exact congrArg some (refreshPolicy_of_heartbeat valid (Nat.le_max_left _ _))

/-- With a heartbeat that is set to an interval, otherwise valid options describe a policy whose
heartbeat has the fewest whole seconds that are no shorter, and at least one, exactly where the
interval is no longer than the largest 64-bit number of seconds. Beyond that the call panics, or
the heartbeat is as short as can be. -/
theorem heartbeat_rounds_up_iff (o : Options) (interval : Duration) (valid : o.OtherwiseValid) :
    (∀ excess : Width.Excess,
      (∃ p seconds, (o.setHeartbeat? excess interval).map refreshPolicy = some (.ok p) ∧
        IsLeast {n | 1 ≤ n ∧ interval.nanos ≤ n * 1000000000} seconds ∧
        p.heartbeat.nanos = seconds * 1000000000) ↔
      interval.nanos ≤ 18446744073709551615 * 1000000000) ∧
    (18446744073709551615 * 1000000000 < interval.nanos →
      o.setHeartbeat? .panics interval = none ∧
      (o.setHeartbeat? .wraps interval).map refreshPolicy =
        some (.ok { o.unchecked with heartbeat := .ofSeconds 1 })) := by
  refine ⟨fun excess => ⟨?_, ?_⟩, ?_⟩
  · rintro ⟨p, seconds, -, least, same⟩
    -- The heartbeat is a duration, so whole seconds that it lasts are a 64-bit number.
    have enough : interval.nanos ≤ seconds * 1000000000 := least.1.2
    have bound := p.heartbeat.bounded
    have short : seconds ≤ 18446744073709551615 := by omega
    exact Nat.le_trans enough (Nat.mul_le_mul_right _ short)
  · intro fits
    refine ⟨_, _, policy_of_fitting valid fits, isLeast_seconds interval, ?_⟩
    have short := interval.seconds_add_carry_le_iff.mpr fits
    exact Duration.nanos_ofSeconds (by omega)
  · intro beyond
    have sum := seconds_add_carry_of_beyond beyond
    constructor
    · simp only [setHeartbeat?, Width.sum64?, sum]
      rfl
    · simp only [setHeartbeat?, Width.sum64?, sum]
      exact congrArg some (refreshPolicy_of_heartbeat valid (Nat.le_refl 1))

/-- The longest interval comes to a panic, or to one second where sums are not checked. -/
theorem heartbeat_of_longest_interval :
    let o : Options := { principalId := some "p", refreshDue := some (.expirationMargin 60) }
    o.OtherwiseValid ∧ o.withHeartbeat? .max = none ∧
      (o.setHeartbeat? .wraps .max).map refreshPolicy =
        some (.ok { o.unchecked with heartbeat := .ofSeconds 1 }) ∧
      ¬ ∃ p seconds, (o.withHeartbeat? .max).map refreshPolicy = some (.ok p) ∧
        IsLeast {n | 1 ≤ n ∧ Duration.max.nanos ≤ n * 1000000000} seconds ∧
        p.heartbeat.nanos = seconds * 1000000000 := by
  intro o
  have valid : o.OtherwiseValid := ⟨by decide, by decide, rfl⟩
  obtain ⟨rounds, beyond⟩ := heartbeat_rounds_up_iff o .max valid
  obtain ⟨panics, wraps⟩ := beyond (by decide)
  exact ⟨valid, panics, wraps, mt (rounds .panics).mp (by decide)⟩

end Options
end TokenKeeper
