/-!
# Instants

An instant is a whole number of nanoseconds since the start of 1970, inside the range of the
calendar: from the first second of the year -262143 to the last nanosecond of the year 262142.
The bounds are part of the type, so arithmetic either stays in the calendar or says that it
does not. Leap seconds and time zones are not modelled.
-/

namespace TokenKeeper

/-- Nanoseconds in one second. -/
def nanosPerSecond : Nat := 1000000000

/-- A moment on the wall clock. -/
structure Instant where
  nanos : Int
  lower : -8334601228800000000000 ≤ nanos := by decide
  upper : nanos ≤ 8210266876799999999999 := by decide
  deriving DecidableEq, Repr

namespace Instant

/-- The first instant of the calendar. It stands for "no token yet". -/
def min : Instant := ⟨-8334601228800000000000, by decide, by decide⟩

/-- The last instant of the calendar. -/
def max : Instant := ⟨8210266876799999999999, by decide, by decide⟩

instance : Inhabited Instant := ⟨⟨0, by decide, by decide⟩⟩

/-- The instant with this many nanoseconds since 1970, if the calendar has it. -/
def ofNanos? (n : Int) : Option Instant :=
  if h : -8334601228800000000000 ≤ n ∧ n ≤ 8210266876799999999999 then some ⟨n, h.1, h.2⟩
  else none

/-- The instant a whole number of seconds after the start of 1970, if the calendar has it. -/
def ofSeconds? (s : Int) : Option Instant := ofNanos? (s * nanosPerSecond)

instance : LE Instant := ⟨fun a b => a.nanos ≤ b.nanos⟩
instance : LT Instant := ⟨fun a b => a.nanos < b.nanos⟩
instance (a b : Instant) : Decidable (a ≤ b) := inferInstanceAs (Decidable (a.nanos ≤ b.nanos))
instance (a b : Instant) : Decidable (a < b) := inferInstanceAs (Decidable (a.nanos < b.nanos))

theorem le_def {a b : Instant} : a ≤ b ↔ a.nanos ≤ b.nanos := Iff.rfl
theorem lt_def {a b : Instant} : a < b ↔ a.nanos < b.nanos := Iff.rfl

theorem ext_nanos {a b : Instant} (h : a.nanos = b.nanos) : a = b := by
  cases a; cases b; simp_all

/-- The later of two instants. -/
def latest (a b : Instant) : Instant := if a ≤ b then b else a

/-- Nanoseconds from `a` to `b`. -/
def since (b a : Instant) : Int := b.nanos - a.nanos

/-- Whole seconds since 1970, rounded down. -/
def seconds (t : Instant) : Int := t.nanos.fdiv nanosPerSecond

/-- Nanoseconds past the last whole second. -/
def subsecond (t : Instant) : Nat := (t.nanos.fmod nanosPerSecond).toNat

@[simp] theorem nanos_min : min.nanos = -8334601228800000000000 := rfl
@[simp] theorem nanos_max : max.nanos = 8210266876799999999999 := rfl

theorem ofNanos?_eq_some_iff {n : Int} {t : Instant} : ofNanos? n = some t ↔ t.nanos = n := by
  unfold ofNanos?
  split
  · rename_i h
    simp only [Option.some.injEq]
    exact ⟨fun e => e ▸ rfl, fun e => ext_nanos e.symm⟩
  · rename_i h
    simp only [reduceCtorEq, false_iff]
    intro e
    exact h (e ▸ ⟨t.lower, t.upper⟩)

theorem ofNanos?_eq_none_iff {n : Int} :
    ofNanos? n = none ↔ n < min.nanos ∨ max.nanos < n := by
  unfold ofNanos?
  simp only [nanos_min, nanos_max]
  split
  · simp only [reduceCtorEq, false_iff]; omega
  · simp only [true_iff]; omega

theorem min_le (t : Instant) : min ≤ t := t.lower
theorem le_max (t : Instant) : t ≤ max := t.upper

section order

variable {a b c : Instant}

theorem le_refl (a : Instant) : a ≤ a := Int.le_refl _
theorem le_trans (h : a ≤ b) (h' : b ≤ c) : a ≤ c := Int.le_trans h h'
theorem le_antisymm (h : a ≤ b) (h' : b ≤ a) : a = b := ext_nanos (Int.le_antisymm h h')
theorem le_of_lt (h : a < b) : a ≤ b := Int.le_of_lt h
theorem lt_of_lt_of_le (h : a < b) (h' : b ≤ c) : a < c := Int.lt_of_lt_of_le h h'
theorem lt_of_le_of_lt (h : a ≤ b) (h' : b < c) : a < c := Int.lt_of_le_of_lt h h'
theorem not_le : ¬ a ≤ b ↔ b < a := Int.not_le
theorem not_lt : ¬ a < b ↔ b ≤ a := Int.not_lt

end order

end Instant
end TokenKeeper
