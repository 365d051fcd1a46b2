import TokenKeeper.Engine.Program
import TokenKeeper.Identity.Claims
import TokenKeeper.Policy.Basic

/-!
# Acquiring a token

The identity service is asked until it issues a token or the attempts are used up. Each attempt
has a deadline of its own, and after each failed one but the last there is a delay. A token is
installed only together with a username: the configured one, or else the object id that the
token carries. A token that does not expire later than the current one changes nothing.
-/

namespace TokenKeeper

/-- What an engine is built with. -/
structure Engine where
  policy : RefreshPolicy
  /-- The username, where it is known beforehand. -/
  principal : Option String

/-- How asking for a token ended. -/
inductive Acquisition
  | refreshed (expiresOn : Instant)
  /-- The token did not expire later than the current one. -/
  | unchanged
  /-- Every attempt failed, or the token came without a username; this was reported. -/
  | failed
  deriving DecidableEq, Repr

namespace Engine

/-- Builds an engine from a valid policy, where there is something that can run it. -/
def build (policy : RefreshPolicy) (principal : Option String) (runtime : Bool) :
    Except AuthError Engine :=
  match policy.validate with
  | .error e => .error (.configuration e)
  | .ok () => if runtime then .ok ⟨policy, principal⟩ else .error .noRuntime

open Program (request ofAnswer)

/-- One attempt. -/
def attempt (e : Engine) (number : Nat) : Program (Except IdentityError AccessToken) := do
  let limit := e.policy.timeouts.forAttempt number
  match ← request (.getToken limit) with
  | .issued t => return .ok t
  | .failed error => return .error error
  | .late => return .error (.timeout limit.seconds)
  | .panicked p => .panic p

/-- Attempts from `number` on, with `left` further ones after the first. -/
def attempts (e : Engine) (left number : Nat) : Program (Except IdentityError AccessToken) := do
  match ← e.attempt number with
  | .ok t => return .ok t
  | .error error =>
    match left with
    | 0 => return .error error
    | left + 1 =>
      let delay ← ofAnswer (← request (.backoff number error))
      request (.sleep delay)
      e.attempts left (number + 1)

/-- Offers an issued token to the store. -/
def offer (t : AccessToken) : Program Acquisition := do
  let acquiredAt ← request .now
  if ← request (.offer ⟨t.secret, acquiredAt, t.expiresOn⟩) then
    request (.notify (.tokenRefreshed acquiredAt t.expiresOn))
    return .refreshed t.expiresOn
  else
    return .unchanged

/-- Installs an issued token, once there is a username. Without one the token is left alone; the
caller is told if it asked for that. -/
def install (e : Engine) (t : AccessToken) (reportFailure : Bool) :
    Program (Except AuthError Acquisition) := do
  match ← request .username with
  | some _ => return .ok (← offer t)
  | none =>
    match e.principal <|> Identity.objectId? t.secret with
    | some name =>
      request (.setUsernameIfAbsent name)
      return .ok (← offer t)
    | none => return if reportFailure then .error .missingUsername else .ok .failed

/-- Asks for a token as often as the policy says, and at least once. If every attempt fails the
subscribers are told; the caller is told the last error if it asked for that. -/
def acquire (e : Engine) (reportFailure : Bool) : Program (Except AuthError Acquisition) := do
  match ← e.attempts (e.policy.maxAttempts - 1) 0 with
  | .ok t => e.install t reportFailure
  | .error error =>
    let current ← request .currentToken
    request (.notify (.tokenRefreshFailed error (current.map (·.expiresAt))))
    return if reportFailure then .error (.identity error) else .ok .failed

end Engine
end TokenKeeper
