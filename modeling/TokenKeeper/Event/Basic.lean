import TokenKeeper.Error
import TokenKeeper.Time.Duration

/-!
# Events

What subscribers are told: a token was renewed, or every attempt failed; an endpoint accepted
the new token, or it could not be brought up to it.
-/

namespace TokenKeeper

/-- What an event is about. Subscriptions are for one kind. -/
inductive EventKind
  | refreshed
  | refreshFailed
  | reauthenticated
  | reauthenticationFailed
  deriving DecidableEq, Repr

namespace EventKind

/-- The name under which a misbehaving subscriber is reported. -/
def name : EventKind → String
  | refreshed => "TokenRefreshed"
  | refreshFailed => "TokenRefreshFailed"
  | reauthenticated => "ConnectionReauthenticated"
  | reauthenticationFailed => "ConnectionReauthenticationFailed"

end EventKind

/-- Something that subscribers are told. -/
inductive Event
  | tokenRefreshed (acquiredAt expiresOn : Instant)
  /-- The expiry is that of the token that stays in use, if there is one. -/
  | tokenRefreshFailed (error : IdentityError) (currentExpiry : Option Instant)
  | connectionReauthenticated (endpoint : String)
  /-- The endpoint is a client's name if the whole connection failed. -/
  | connectionReauthenticationFailed (error : ReauthenticationError) (endpoint : String)
  deriving DecidableEq

namespace Event

def kind : Event → EventKind
  | tokenRefreshed .. => .refreshed
  | tokenRefreshFailed .. => .refreshFailed
  | connectionReauthenticated _ => .reauthenticated
  | connectionReauthenticationFailed .. => .reauthenticationFailed

end Event

/-- How one call of a subscriber went. -/
inductive HandlerRun
  | finished
  | panicked (p : Panic)
  /-- Not done when its time was up. -/
  | overran
  deriving DecidableEq, Repr

namespace HandlerRun

/-- The report on one call. It goes to the log and nowhere else. -/
def report (run : HandlerRun) (name : String) (limit : Duration) : Except HandlerError Unit :=
  match run with
  | finished => .ok ()
  | panicked p => .error (.failed name p.message)
  | overran => .error (.timedOut name limit.millis)

end HandlerRun
end TokenKeeper
