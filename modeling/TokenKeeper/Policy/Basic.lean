import TokenKeeper.Policy.RefreshDue
import TokenKeeper.Policy.Schedule

/-!
# The refresh policy

How often a token is asked for in one go, how long each attempt may take, how long to wait in
between, when a token is due for renewal, how often the heartbeat looks, and how often a refused
`AUTH` command is repeated on the spot.
-/

namespace TokenKeeper

/-- The delay after a failed attempt, from its number and its error. A function of the
application may panic. -/
abbrev Backoff := Nat → IdentityError → Except Panic Duration

/-- The doubling delay, whatever the error was. -/
def Backoff.exponential (base cap : Duration) : Backoff :=
  fun attempt _ => .ok (exponentialDelay base cap attempt)

/-- The same delay after every attempt. -/
def Backoff.constant (delay : Duration) : Backoff := fun _ _ => .ok delay

/-- The rules by which one identity is kept current. -/
structure RefreshPolicy where
  maxAttempts : Nat := 5
  timeouts : AttemptTimeouts := .standard
  backoff : Backoff := .exponential (.ofSeconds 1) (.ofSeconds 30)
  refreshDue : RefreshDue := .standard
  heartbeat : Duration := .ofSeconds 300
  /-- Further `AUTH` commands to an endpoint that has refused one, within the same pass. -/
  immediateRetries : Nat := 0

namespace RefreshPolicy

/-- The policy that is used where nothing else is asked for. -/
def standard : RefreshPolicy where

instance : Inhabited RefreshPolicy := ⟨standard⟩

/-- A policy makes at least one attempt, and neither its heartbeat nor its first deadline is
empty. Of several faults the first in this order is reported. -/
def validate (p : RefreshPolicy) : Except ConfigurationError Unit :=
  if p.maxAttempts = 0 then
    .error (.invalid "max_token_refresh_attempts" "at least one attempt is required")
  else if p.heartbeat.nanos = 0 then
    .error (.invalid "heartbeat_interval_secs" "must be greater than zero")
  else if p.timeouts.initial.nanos = 0 then
    .error (.invalid "attempt_timeout_secs" "must be greater than zero")
  else p.refreshDue.validate

/-- The policy as diagnostics show it. -/
def shown (p : RefreshPolicy) : String :=
  Text.record "RefreshPolicy"
    [("max_attempts", toString p.maxAttempts),
     ("attempt_timeouts", p.timeouts.shown),
     ("refresh_due", p.refreshDue.shown),
     ("heartbeat_interval", p.heartbeat.text),
     ("immediate_reauthentication_retries", toString p.immediateRetries)] true

end RefreshPolicy
end TokenKeeper
