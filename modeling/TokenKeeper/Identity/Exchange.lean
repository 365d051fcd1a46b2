import TokenKeeper.Error
import TokenKeeper.Json
import TokenKeeper.Time.Instant
import TokenKeeper.Url.Basic

/-!
# Exchanges with the identity service

A request goes to an address of the web and comes back with a status and a body, or with
nothing. An address that cannot be read, that has no host or that is not of the web fails before
anything is sent. User name and password in an address are taken out of it.
-/

namespace TokenKeeper.Identity

structure HttpRequest where
  method : String
  url : Url
  /-- Whether the header is sent that managed identities ask for. -/
  metadata : Bool := false
  /-- The body of a form. -/
  form : Option String := none
  deriving DecidableEq, Repr

structure HttpReply where
  status : Nat
  body : List UInt8
  deriving DecidableEq, Repr

/-- Somebody who answers requests, or does not. -/
abbrev Peer := HttpRequest → Option HttpReply

/-- A peer that nothing reaches. -/
def Peer.unreachable : Peer := fun _ => none

/-- What a request depends on besides its own settings. -/
structure Surroundings where
  peer : Peer := .unreachable
  now : Instant
  /-- A number used once, for what has to be signed. -/
  nonce : String := ""

/-- The failure of a request that cannot be made. -/
def builderError (u : Url) : IdentityError :=
  .requestFailed u.text ("builder error for url (" ++ u.text ++ ")")

/-- The address of an endpoint. -/
def target (endpoint : String) : Except IdentityError Url :=
  match Url.read? endpoint with
  | none => .error (.requestFailed "<unknown>" "builder error")
  | some u => if u.host.isSome then .ok u.withoutCredentials else .error (builderError u)

/-- Sends a request and waits for the answer. -/
def send (peer : Peer) (r : HttpRequest) : Except IdentityError HttpReply :=
  if r.url.scheme ≠ "http" ∧ r.url.scheme ≠ "https" then .error (builderError r.url)
  else match peer r with
    | some reply => .ok reply
    | none =>
      .error (.requestFailed r.url.text ("error sending request for url (" ++ r.url.text ++ ")"))

def isSuccess (status : Nat) : Bool := 200 ≤ status && status ≤ 299

/-- The error that a reply without success stands for. The code and the description of the
service are kept where it gives them; else the whole body is the description. -/
def serviceError (r : HttpReply) : IdentityError :=
  let body := (Url.textOf? r.body).getD "\ufffd"
  let unknown := IdentityError.service r.status "unknown_error" body
  match Json.membersOfText? ["error", "error_description"] body with
  | some [some (.text code), none] => .service r.status code ""
  | some [some (.text code), some .null] => .service r.status code ""
  | some [some (.text code), some (.text description)] => .service r.status code description
  | _ => unknown

end TokenKeeper.Identity
