import TokenKeeper.Engine.Program

/-!
# Scripted surroundings

What the surroundings of a simulated engine do: how the identity service answers, how a
connection lists its servers, how an endpoint answers `AUTH`, what a subscriber does, and a few
rules that an application might have for renewal.
-/

namespace TokenKeeper.Simulation

/-- One answer of the identity service. -/
inductive ScriptedReply
  | issue (secret : String) (expiresOn : Instant)
  | fail (e : IdentityError)
  /-- Never answers. -/
  | hang
  /-- Goes on after some time. -/
  | delay (d : Duration) (next : ScriptedReply)
  /-- Goes on when it is released. -/
  | hold (next : ScriptedReply)
  | panic (message : String)
  deriving Inhabited

/-- How a connection answers when its servers are asked for. -/
inductive ServersMode
  | listed
  | disposed
  | panics
  | unavailable (reason : String)
  deriving DecidableEq, Repr

/-- How an endpoint answers one `AUTH` command. -/
inductive AuthAnswer
  | accept
  | disposed
  /-- The endpoint reports that it was moved. -/
  | moved
  /-- The endpoint reports a panic, without panicking. -/
  | panicked
  | panics
  | refuse (reason : String)
  deriving DecidableEq, Repr

namespace AuthAnswer

/-- The answer of the endpoint with this address. -/
def reply (a : AuthAnswer) (address : String) : Except Panic AuthReply :=
  match a with
  | accept => .ok (.ok ())
  | disposed => .ok (.error .disposed)
  | moved => .ok (.error (.serversUnavailable address "moved"))
  | panicked => .ok (.error (.panicked address))
  | panics => .error (.text "endpoint panicked")
  | refuse reason => .ok (.error (.commandFailed address reason))

end AuthAnswer

/-- A subscriber notes what it is told under its label. -/
structure Subscriber where
  label : String
  /-- Whether it notes the event itself or only that there was one. -/
  keepsEvent : Bool
  /-- Whether it panics after it has noted the event. -/
  panics : Bool
  deriving DecidableEq, Repr

/-- What a subscriber has noted. -/
structure Delivery where
  label : String
  event : Option Event

/-- Rules for renewal that look at nothing but the token. -/
inductive SampleRule
  | always
  | never
  /-- The lifetime is below so many seconds. -/
  | lifetimeBelow (seconds : Int)
  | panics
  deriving DecidableEq, Repr

namespace SampleRule

/-- The rule as a predicate over acquisition and expiry. -/
def predicate (r : SampleRule) (acquired expires : Instant) : Except Panic Bool :=
  match r with
  | always => .ok true
  | never => .ok false
  | lifetimeBelow seconds => .ok (expires.since acquired < seconds * nanosPerSecond)
  | panics => .error (.text "predicate exploded")

end SampleRule
end TokenKeeper.Simulation
