import TokenKeeper.Text.Quoted
import TokenKeeper.Time.Text
import TokenKeeper.Width

/-!
# Deadlines and delays of repeated attempts

Attempts are counted from zero. The deadline of an attempt grows by a fixed step, the delay
after a failed one doubles up to a cap. Both stay at the longest duration instead of
overflowing; the doubling factor stays below `2 ^ 32`.
-/

namespace TokenKeeper

/-- The deadline of the first attempt, and how much more each further attempt gets. -/
structure AttemptTimeouts where
  initial : Duration
  increment : Duration
  deriving DecidableEq

namespace AttemptTimeouts

/-- Ten seconds, and five more each time. -/
def standard : AttemptTimeouts := ⟨.ofSeconds 10, .ofSeconds 5⟩

/-- The deadline of attempt number `attempt`. -/
def forAttempt (t : AttemptTimeouts) (attempt : Nat) : Duration :=
  t.initial.add (t.increment.scale attempt)

/-- The schedule as diagnostics show it. -/
def shown (t : AttemptTimeouts) : String :=
  Text.record "AttemptTimeouts"
    [("initial", t.initial.text), ("increment", t.increment.text)] false

end AttemptTimeouts

/-- The factor of the delay after attempt number `attempt`: a power of two, at most the largest
32-bit number. -/
def doublingFactor (attempt : Nat) : Nat :=
  if attempt < 32 then Nat.pow 2 attempt else Width.bound32 - 1

/-- The doubling delay after attempt number `attempt`. -/
def exponentialDelay (base cap : Duration) (attempt : Nat) : Duration :=
  (base.scale (doublingFactor attempt)).shorter cap

end TokenKeeper
