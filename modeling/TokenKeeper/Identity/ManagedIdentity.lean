import TokenKeeper.Identity.Exchange
import TokenKeeper.Identity.Guid
import TokenKeeper.Text.Blank
import TokenKeeper.Token.Basic
import TokenKeeper.Width

/-!
# Managed identities

A machine asks the metadata service next to it for a token of its own identity or of one that
was assigned to it. The reply gives the expiry in seconds since 1970, as a number or as text.
-/

namespace TokenKeeper.Identity

/-- Which identity a token is asked for. -/
inductive ManagedIdentityId
  | systemAssigned
  /-- An assigned identity, by its client id. -/
  | clientId (id : String)
  /-- An assigned identity, by its resource id. -/
  | resourceId (id : String)
  deriving DecidableEq, Repr

namespace ManagedIdentityId

/-- A unique identifier is a client id, anything else a resource id. -/
def ofClientId : Option String → ManagedIdentityId
  | none => systemAssigned
  | some id => if isGuid id then clientId id else resourceId id

/-- The identity as diagnostics show it. -/
def shown : ManagedIdentityId → String
  | systemAssigned => "SystemAssigned"
  | clientId id => "ClientId(" ++ Text.quoted id ++ ")"
  | resourceId id => "ResourceId(" ++ Text.quoted id ++ ")"

/-- The pair by which a request names the identity. -/
def parameter : ManagedIdentityId → List (String × String)
  | systemAssigned => []
  | clientId id => [("client_id", id)]
  | resourceId id => [("msi_res_id", id)]

end ManagedIdentityId

/-- Takes a beginning off as often as it is there, at most `limit` times. -/
def withoutLead (lead : List Char) (limit : Nat) (cs : List Char) : List Char :=
  match limit with
  | 0 => cs
  | limit + 1 =>
    if lead.isPrefixOf cs then withoutLead lead limit (cs.drop lead.length) else cs

/-- Takes an ending off as often as it is there. -/
def withoutEnding (ending cs : List Char) : List Char :=
  (withoutLead ending.reverse cs.length cs.reverse).reverse

/-- The resource that a scope is about. -/
def resourceOf (scope : String) : String :=
  String.ofList (withoutEnding "/.default".toList scope.toList)

/-- A managed identity and where to ask for its tokens. -/
structure ManagedIdentity where
  id : ManagedIdentityId
  endpoint : String
  resource : String
  deriving DecidableEq, Repr

/-- Why a text is not a whole number of 64 bits. -/
inductive NumberFault
  | empty
  | digit
  | tooLarge
  | tooSmall
  deriving DecidableEq, Repr

def NumberFault.message : NumberFault → String
  | empty => "cannot parse integer from empty string"
  | digit => "invalid digit found in string"
  | tooLarge => "number too large to fit in target type"
  | tooSmall => "number too small to fit in target type"

/-- Reads further digits behind those of `n`. Of several faults the first in the text counts, so
a number can turn out to be too large before a wrong digit is seen. -/
def readDigits (minus : Bool) (n : Int) : List Char → Except NumberFault Int
  | [] => .ok n
  | c :: rest =>
    if c.isDigit then
      let digit : Int := (c.toNat - 48 : Nat)
      let more := if minus then 10 * n - digit else 10 * n + digit
      if Width.isSigned64 more then readDigits minus more rest
      else .error (if minus then .tooSmall else .tooLarge)
    else .error .digit

/-- Reads a whole number of 64 bits with an optional sign. -/
def readInteger (cs : List Char) : Except NumberFault Int :=
  let (minus, digits) := Decimal.splitSign cs
  if cs.isEmpty then .error .empty
  else if digits.isEmpty then .error .digit
  else readDigits minus 0 digits

/-- An expiry in seconds since 1970, as a reply gives it. -/
inductive UnixSeconds
  | number (n : Int)
  | text (s : String)
  deriving DecidableEq, Repr

namespace UnixSeconds

/-- A number has to have 64 bits with a sign. -/
def ofJson? : Json → Option UnixSeconds
  | .natural n => (Width.toSigned64? n).map number
  | .negative n => some (number n)
  | .text s => some (text s)
  | _ => none

/-- The whole number that stands for the expiry; around a text blanks do not matter. -/
def seconds : UnixSeconds → Except IdentityError Int
  | number n => .ok n
  | text s =>
    (readInteger (Text.trimmed s.toList)).mapError fun f =>
      .invalidResponse ("Invalid expires_on value '" ++ s ++ "': " ++ f.message)

/-- The instant of the expiry. -/
def instant (u : UnixSeconds) : Except IdentityError Instant := do
  let n ← u.seconds
  match Instant.ofSeconds? n with
  | some t => return t
  | none => throw (.invalidResponse ("expires_on out of range: " ++ toString n))

end UnixSeconds

namespace ManagedIdentity

/-- The pairs of a request. -/
def parameters (m : ManagedIdentity) : List (String × String) :=
  [("api-version", "2018-02-01"), ("resource", m.resource)] ++ m.id.parameter

/-- The token in the body of a reply. -/
def tokenOf (body : List UInt8) : Except IdentityError AccessToken :=
  let unreadable : IdentityError := .invalidResponse
    "Failed to parse IMDS token response: error decoding response body"
  match Json.membersOfBytes? ["access_token", "expires_on"] body with
  | some [some (.text secret), some expires] =>
    match UnixSeconds.ofJson? expires with
    | some u => u.instant.map fun t => ⟨secret, t⟩
    | none => .error unreadable
  | _ => .error unreadable

/-- The request for a token. -/
def request (m : ManagedIdentity) : Except IdentityError HttpRequest :=
  (target m.endpoint).map fun u =>
    { method := "GET", url := u.addPairs m.parameters, metadata := true }

/-- Asks for a token. -/
def getToken (m : ManagedIdentity) (s : Surroundings) : Except IdentityError AccessToken := do
  let reply ← send s.peer (← m.request)
  if isSuccess reply.status then tokenOf reply.body else throw (serviceError reply)

end ManagedIdentity
end TokenKeeper.Identity
