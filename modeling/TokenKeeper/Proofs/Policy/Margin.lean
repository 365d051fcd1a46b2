import TokenKeeper.Policy.RefreshDue

/-!
# A margin before the expiry

A token with a margin is due from so many seconds before its expiry on, counted in whole
nanoseconds and without any bound. There are three limits on the way: a margin can be too large
for a number with a sign, too long for a span, or reach back beyond the calendar. At each of them
the token is taken to be due, and each of them lies so far out that it is: every instant of the
calendar comes after the moment that cannot be expressed. So no limit can be told from exact
arithmetic, and a larger margin, an earlier expiry or a later clock never makes a token less due.
-/

namespace TokenKeeper.RefreshDue

variable {margin : Nat} {acquired expires now : Instant}

/-- Seconds before an instant of the calendar cannot lead beyond its end. -/
theorem early_of_bind_sub?_eq_none {t : Instant} {s : Nat}
    (outside : (Span.ofUnsigned? s).bind t.sub? = none) :
    t.nanos - s * nanosPerSecond < Instant.min.nanos := by
  have back : 0 ≤ (s * nanosPerSecond : Int) :=
    Int.mul_nonneg (Int.natCast_nonneg s) (Int.natCast_nonneg _)
  have high := t.upper
  rw [Instant.bind_sub?_eq, Instant.ofNanos?_eq_none_iff] at outside
  rcases outside with early | late
  · exact early
  · rw [Instant.nanos_max] at late
    omega

/-- The answer of a margin, with the moment from which the token is due as an unbounded number. -/
theorem isDueAt_margin (margin : Nat) (acquired expires now : Instant) :
    (expirationMargin margin).isDueAt acquired expires now =
      .ok (decide (expires.nanos - margin * nanosPerSecond ≤ now.nanos)) := by
  rw [isDueAt]
  cases moment : (Span.ofUnsigned? margin).bind expires.sub? with
  | some moment' =>
      rw [Instant.bind_sub?_eq, Instant.ofNanos?_eq_some_iff] at moment
      simp only [Instant.le_def, moment]
  | none =>
      have early := early_of_bind_sub?_eq_none moment
      have low : Instant.min.nanos ≤ now.nanos := now.lower
      simp only [Except.ok.injEq, Bool.true_eq, decide_eq_true_eq]
      omega

theorem isDueAt_margin_iff :
    (expirationMargin margin).isDueAt acquired expires now = .ok true ↔
      expires.nanos - margin * nanosPerSecond ≤ now.nanos := by
  rw [isDueAt_margin, Except.ok.injEq, decide_eq_true_eq]

/-- A margin is answered without a panic and as exact arithmetic has it, and what is due stays due
with a larger margin, an earlier expiry and a later clock. -/
theorem margin_exact :
    (∀ (margin : Nat) (acquired expires now : Instant),
      (expirationMargin margin).isDueAt acquired expires now =
        .ok (decide (now.nanos ≥ expires.nanos - margin * 1000000000))) ∧
    ∀ (margin margin' : Nat) (acquired acquired' expires expires' now now' : Instant),
      margin ≤ margin' → expires' ≤ expires → now ≤ now' →
      (expirationMargin margin).isDueAt acquired expires now = .ok true →
      (expirationMargin margin').isDueAt acquired' expires' now' = .ok true := by
  constructor
  case left =>
    exact isDueAt_margin
  case right =>
    intro margin margin' acquired acquired' expires expires' now now' wider earlier later due
    rw [isDueAt_margin_iff] at due ⊢
    have reach : (margin * nanosPerSecond : Int) ≤ margin' * nanosPerSecond :=
      Int.mul_le_mul_of_nonneg_right (Int.ofNat_le.mpr wider) (Int.natCast_nonneg _)
    calc expires'.nanos - margin' * nanosPerSecond
      _ ≤ expires.nanos - margin * nanosPerSecond := Int.sub_le_sub earlier reach
      _ ≤ now.nanos := due
      _ ≤ now'.nanos := later

/-- A minute after the start of 1970. -/
def aMinute : Instant := ⟨60000000000, by decide, by decide⟩

/-- The largest margin of all is due at the first instant for a token that expires at the last
one. What is due a minute before the expiry is due with a longer margin at an earlier expiry. -/
theorem margin_at_the_limits :
    (expirationMargin 18446744073709551615).isDueAt .min .max .min = .ok true ∧
      60 ≤ 7200 ∧ (default : Instant) ≤ aMinute ∧
      (expirationMargin 60).isDueAt .min aMinute default = .ok true ∧
      (expirationMargin 7200).isDueAt .min default aMinute = .ok true := by
  have due : (expirationMargin 60).isDueAt .min aMinute default = .ok true :=
    margin_exact.1 60 .min aMinute default
  refine ⟨margin_exact.1 18446744073709551615 .min .max .min, by decide, by decide, due, ?_⟩
  exact margin_exact.2 60 7200 .min .min aMinute default default aMinute (by decide) (by decide)
    (by decide) due

end TokenKeeper.RefreshDue
