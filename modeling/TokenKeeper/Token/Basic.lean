import TokenKeeper.Text.Quoted
import TokenKeeper.Time.Text

/-!
# Tokens

A token as the identity service issues it, and the same token once it is in use, with the time
of its acquisition. The secret itself never shows in diagnostics.
-/

namespace TokenKeeper

/-- A token as issued. -/
structure AccessToken where
  secret : String
  expiresOn : Instant
  deriving DecidableEq

namespace AccessToken

/-- The token as diagnostics show it. -/
def shown (t : AccessToken) : String :=
  Text.record "AccessToken" [("token", Text.redacted), ("expires_on", t.expiresOn.text)] false

end AccessToken

/-- A token in use. -/
structure Token where
  secret : String
  acquiredAt : Instant
  expiresAt : Instant
  deriving DecidableEq

namespace Token

/-- A token is no longer valid from its expiry on. -/
def isExpiredAt (t : Token) (now : Instant) : Bool := t.expiresAt ≤ now

/-- Nanoseconds from acquisition to expiry; not positive for a token that was old when it
came. -/
def lifetime (t : Token) : Int := t.expiresAt.since t.acquiredAt

/-- The token as diagnostics show it. -/
def shown (t : Token) : String :=
  Text.record "TokenState"
    [("value", Text.redacted), ("acquired_at", t.acquiredAt.text),
     ("expires_at", t.expiresAt.text)] false

end Token

/-- What a new connection signs in with. -/
structure Credential where
  username : Option String
  password : String
  deriving DecidableEq

namespace Credential

/-- The credential as diagnostics show it. -/
def shown (c : Credential) : String :=
  Text.record "Credential"
    [("username", Text.optionalQuoted c.username), ("password", Text.redacted)] false

end Credential
end TokenKeeper
