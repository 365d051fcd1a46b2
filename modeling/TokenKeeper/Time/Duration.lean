import TokenKeeper.Time.Instant

/-!
# Durations

A duration is a whole number of nanoseconds, at most the largest number of 64-bit seconds with
a full fraction. Sums and products that would be larger stay at that bound.
-/

namespace TokenKeeper

/-- A length of time. -/
structure Duration where
  nanos : Nat
  bounded : nanos ≤ 18446744073709551615999999999 := by decide
  deriving DecidableEq, Repr

namespace Duration

/-- The longest duration, in nanoseconds. -/
def maxNanos : Nat := 18446744073709551615999999999

/-- The longest duration. -/
def max : Duration := ⟨maxNanos, Nat.le_refl _⟩

/-- No time at all. -/
def zero : Duration := ⟨0, by decide⟩

instance : Inhabited Duration := ⟨zero⟩

/-- The duration of `n` nanoseconds, or the longest one if that is shorter. -/
def clamp (n : Nat) : Duration := ⟨Nat.min n maxNanos, Nat.min_le_right _ _⟩

/-- Whole seconds; more than a 64-bit number of them is the longest duration. -/
def ofSeconds (s : Nat) : Duration := clamp (s * nanosPerSecond)

/-- Whole seconds, rounded down. -/
def seconds (d : Duration) : Nat := d.nanos / nanosPerSecond

/-- Nanoseconds past the last whole second. -/
def subsecond (d : Duration) : Nat := d.nanos % nanosPerSecond

/-- Whole milliseconds, rounded down. -/
def millis (d : Duration) : Nat := d.nanos / 1000000

/-- The sum, kept at the longest duration. -/
def add (a b : Duration) : Duration := clamp (a.nanos + b.nanos)

/-- The product with a number, kept at the longest duration. -/
def scale (a : Duration) (n : Nat) : Duration := clamp (a.nanos * n)

/-- The shorter of two durations. -/
def shorter (a b : Duration) : Duration := if a.nanos ≤ b.nanos then a else b

/-- The second that a fraction counts as. -/
def carry (d : Duration) : Nat := if d.subsecond = 0 then 0 else 1

@[simp] theorem nanos_clamp (n : Nat) : (clamp n).nanos = Nat.min n maxNanos := rfl
@[simp] theorem nanos_add (a b : Duration) :
    (a.add b).nanos = Nat.min (a.nanos + b.nanos) maxNanos := rfl
@[simp] theorem nanos_scale (a : Duration) (n : Nat) :
    (a.scale n).nanos = Nat.min (a.nanos * n) maxNanos := rfl

theorem nanos_shorter (a b : Duration) : (a.shorter b).nanos = Nat.min a.nanos b.nanos := by
  unfold shorter
  split
  · exact (Nat.min_eq_left ‹_›).symm
  · exact (Nat.min_eq_right (by omega)).symm

theorem ext_nanos {a b : Duration} (h : a.nanos = b.nanos) : a = b := by
  cases a; cases b; simp_all

end Duration
end TokenKeeper
