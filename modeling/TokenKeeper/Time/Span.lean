import TokenKeeper.Time.Instant
import TokenKeeper.Width

/-!
# Spans

A span is a signed length of time: a whole number of nanoseconds, and at most the largest signed
64-bit number of milliseconds in either direction. An instant moved by a span either stays in the
calendar or there is no such instant.
-/

namespace TokenKeeper

/-- A signed length of time. -/
structure Span where
  nanos : Int
  lower : -9223372036854775807000000 ≤ nanos := by decide
  upper : nanos ≤ 9223372036854775807000000 := by decide
  deriving DecidableEq, Repr

namespace Span

/-- The span of this many nanoseconds, if it is not too long. -/
def ofNanos? (n : Int) : Option Span :=
  if h : -9223372036854775807000000 ≤ n ∧ n ≤ 9223372036854775807000000 then some ⟨n, h.1, h.2⟩
  else none

/-- A whole number of seconds. -/
def ofSeconds? (s : Int) : Option Span := ofNanos? (s * nanosPerSecond)

/-- A number of seconds without a sign, which has to fit the numbers with one first. -/
def ofUnsigned? (s : Nat) : Option Span := (Width.toSigned64? s).bind ofSeconds?

/-- A whole number of milliseconds. -/
def ofMillis? (m : Int) : Option Span := ofNanos? (m * 1000000)

theorem ext_nanos {a b : Span} (h : a.nanos = b.nanos) : a = b := by
  cases a; cases b; simp_all

theorem ofNanos?_eq_some_iff {n : Int} {d : Span} : ofNanos? n = some d ↔ d.nanos = n := by
  unfold ofNanos?
  split
  · simp only [Option.some.injEq]
    exact ⟨fun e => e ▸ rfl, fun e => ext_nanos e.symm⟩
  · rename_i h
    simp only [reduceCtorEq, false_iff]
    intro e
    exact h (e ▸ ⟨d.lower, d.upper⟩)

theorem ofUnsigned?_eq_some_iff {s : Nat} {d : Span} :
    ofUnsigned? s = some d ↔ d.nanos = s * nanosPerSecond := by
  have bound := d.upper
  simp only [ofUnsigned?, Option.bind_eq_some_iff, Width.toSigned64?_eq_some_iff, ofSeconds?,
    ofNanos?_eq_some_iff, nanosPerSecond]
  constructor
  · rintro ⟨n, ⟨_, rfl⟩, same⟩
    exact same
  · intro same
    exact ⟨s, ⟨by omega, rfl⟩, same⟩

theorem ofUnsigned?_eq_none_iff {s : Nat} :
    ofUnsigned? s = none ↔ 9223372036854775807000000 < (s * nanosPerSecond : Int) := by
  constructor
  · intro absent
    refine Int.not_le.mp fun fits => ?_
    have low : 0 ≤ (s * nanosPerSecond : Int) :=
      Int.mul_nonneg (Int.natCast_nonneg s) (Int.natCast_nonneg _)
    have present : ofUnsigned? s = some ⟨s * nanosPerSecond, by omega, fits⟩ :=
      ofUnsigned?_eq_some_iff.mpr rfl
    simp [absent] at present
  · intro long
    cases span : ofUnsigned? s with
    | none => rfl
    | some d =>
        have same := ofUnsigned?_eq_some_iff.mp span
        have bound := d.upper
        omega

end Span

namespace Instant

/-- The instant a span later, if the calendar has it. -/
def add? (t : Instant) (d : Span) : Option Instant := ofNanos? (t.nanos + d.nanos)

/-- The instant a span earlier, if the calendar has it. -/
def sub? (t : Instant) (d : Span) : Option Instant := ofNanos? (t.nanos - d.nanos)

/-- What is too long for a span leads out of the calendar anyway. -/
theorem bind_add?_eq (t : Instant) (s : Nat) :
    (Span.ofUnsigned? s).bind t.add? = ofNanos? (t.nanos + s * nanosPerSecond) := by
  cases span : Span.ofUnsigned? s with
  | some d => rw [Option.bind_some, add?, Span.ofUnsigned?_eq_some_iff.mp span]
  | none =>
      have long := Span.ofUnsigned?_eq_none_iff.mp span
      have low := t.lower
      refine (ofNanos?_eq_none_iff.mpr (.inr ?_)).symm
      rw [nanos_max]
      omega

theorem bind_sub?_eq (t : Instant) (s : Nat) :
    (Span.ofUnsigned? s).bind t.sub? = ofNanos? (t.nanos - s * nanosPerSecond) := by
  cases span : Span.ofUnsigned? s with
  | some d => rw [Option.bind_some, sub?, Span.ofUnsigned?_eq_some_iff.mp span]
  | none =>
      have long := Span.ofUnsigned?_eq_none_iff.mp span
      have high := t.upper
      refine (ofNanos?_eq_none_iff.mpr (.inl ?_)).symm
      rw [nanos_min]
      omega

end Instant
end TokenKeeper
