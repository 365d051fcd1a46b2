import TokenKeeper.Decimal.Text
import TokenKeeper.Error
import TokenKeeper.Text.Quoted
import TokenKeeper.Time.Span
import TokenKeeper.Time.Text

/-!
# When a token is due for renewal

A token is due a fixed time before it expires, after a fraction of its lifetime, or when a rule
of the application says so. A margin that is too long for a span, or so long that the calendar
cannot express the moment, means that the token is due at once. A fraction of the lifetime is taken
in whole milliseconds and in floating point; if the moment it names lies outside the calendar there
is no answer. A rule of the application goes by the two instants alone.
-/

namespace TokenKeeper

/-- The rule that decides when to renew a token, from when it was acquired and expires. -/
inductive RefreshDue
  /-- So many seconds before the token expires. -/
  | expirationMargin (seconds : Nat)
  /-- When this fraction of the lifetime has passed. -/
  | lifetimeElapsed (fraction : Float)
  /-- A rule of the application. -/
  | custom (rule : Instant → Instant → Except Panic Bool)

namespace RefreshDue

/-- Three quarters of the lifetime. -/
def standard : RefreshDue := .lifetimeElapsed 0.75

instance : Inhabited RefreshDue := ⟨standard⟩

/-- Milliseconds of the lifetime, towards zero, that pass before renewal. Numbers beyond 64 bits
are taken as the nearest bound, and no number at all as zero. -/
def elapsedMillis (acquired expires : Instant) (fraction : Float) : Int :=
  let lifetime := (expires.since acquired).tdiv 1000000
  ((Int64.ofInt lifetime).toFloat * fraction).toInt64.toInt

/-- Whether the token is due at `now`. -/
def isDueAt (due : RefreshDue) (acquired expires now : Instant) : Except Panic Bool :=
  match due with
  | expirationMargin seconds =>
    match (Span.ofUnsigned? seconds).bind expires.sub? with
    | some moment => .ok (moment ≤ now)
    | none => .ok true
  | lifetimeElapsed fraction =>
    match Span.ofMillis? (elapsedMillis acquired expires fraction) with
    | some elapsed =>
      match acquired.add? elapsed with
      | some moment => .ok (moment ≤ now)
      | none => .error (.text "\x60DateTime + TimeDelta\x60 overflowed")
    | none => .error (.text "TimeDelta::milliseconds out of bounds")
  | custom rule => rule acquired expires

/-- A fraction has to lie above zero and at most at one. -/
def validate : RefreshDue → Except ConfigurationError Unit
  | lifetimeElapsed fraction =>
    if 0.0 < fraction ∧ fraction ≤ 1.0 then .ok ()
    else .error (.invalid "refresh_due.fraction"
      ("must be in (0, 1], got " ++ Decimal.plain fraction))
  | _ => .ok ()

/-- The rule as diagnostics show it. -/
def shown : RefreshDue → String
  | expirationMargin seconds =>
    Text.record "ExpirationMargin" [("margin_secs", toString seconds)] false
  | lifetimeElapsed fraction =>
    Text.record "LifetimeElapsed" [("fraction", Decimal.marked fraction)] false
  | custom _ => "Custom(..)"

end RefreshDue
end TokenKeeper
