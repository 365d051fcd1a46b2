import TokenKeeper.Crypto.Der
import TokenKeeper.Crypto.Pem
import TokenKeeper.Crypto.Rsa
import TokenKeeper.Identity.Exchange
import TokenKeeper.Time.Span
import TokenKeeper.Token.Basic

/-!
# Service principals

An application signs in with a secret or with a statement that it signs with the key of its
certificate. The reply gives the lifetime of the token in seconds. A certificate that cannot be
used is found when the service principal is set up; a key that cannot sign, when it has to.
-/

namespace TokenKeeper

/-- A certificate, with its key in the same text or in one of its own. -/
structure ClientCertificate where
  certificatePem : String
  privateKeyPem : Option String := none
  deriving DecidableEq, Repr

namespace ClientCertificate

/-- The certificate as diagnostics show it. -/
def shown (c : ClientCertificate) : String :=
  Text.record "ClientCertificate"
    [("certificate_pem", Text.redacted),
     ("private_key_pem", Text.optional (c.privateKeyPem.map fun _ => Text.redacted))] false

end ClientCertificate

namespace Identity

/-- How an application proves who it is. -/
inductive ClientAuthentication
  | secret (s : String)
  | certificate (c : ClientCertificate)
  deriving DecidableEq, Repr

namespace ClientAuthentication

/-- The proof as diagnostics show it. -/
def shown : ClientAuthentication → String
  | secret _ => "Secret(<redacted>)"
  | certificate c => "Certificate(" ++ c.shown ++ ")"

end ClientAuthentication

/-- A certificate that is ready to sign. -/
structure Signer where
  /-- The bytes of the key. -/
  key : List UInt8
  /-- The digest of the certificate. -/
  thumbprint : String
  deriving DecidableEq, Repr

namespace Signer

open Crypto

def unusable (reason : String) : ConfigurationError :=
  .invalid "service_principal_certificate" reason

/-- The object ids that name a kind of key: two for curves, one for the kind that can sign. -/
def keyKinds : List (List Nat) :=
  [[1, 2, 840, 10045, 2, 1], [1, 2, 840, 113549, 1, 1, 1], [1, 3, 101, 112]]

/-- The bytes of a signing key. A wrapped key names its kind and holds the key as a string. -/
def keyOf? (b : PemBlock) : Except String (List UInt8) :=
  match Der.read? b.contents with
  | none => .error "InvalidKeyFormat"
  | some ds =>
    if b.label = "RSA PRIVATE KEY" then .ok b.contents
    else if Der.firstKnownIdOf? keyKinds ds = some [1, 2, 840, 113549, 1, 1, 1] then
      match Der.firstStringOf? ds with
      | some key => .ok key
      | none => .error "InvalidEcdsaKey"
    else .error "InvalidKeyFormat"

/-- Sets up a certificate. The first certificate and the first key count, wherever they stand. -/
def ofCertificate (c : ClientCertificate) : Except ConfigurationError Signer := do
  let blocks ← match Pem.read c.certificatePem with
    | .ok bs => pure bs
    | .error f => throw (unusable ("Failed to parse certificate PEM: " ++ f.message))
  let more ← match c.privateKeyPem.map Pem.read with
    | none => pure []
    | some (.ok bs) => pure bs
    | some (.error f) => throw (unusable ("Failed to parse private key PEM: " ++ f.message))
  let blocks := blocks ++ more
  match blocks.find? fun b => b.label == "CERTIFICATE" with
  | none => throw (unusable "No certificate found in PEM")
  | some certificate =>
    match blocks.find? fun b => b.label ∈ ["PRIVATE KEY", "RSA PRIVATE KEY"] with
    | none => throw (unusable "No RSA private key found in PEM")
    | some block =>
      match keyOf? block with
      | .error reason => throw (unusable ("Failed to load private key: " ++ reason))
      | .ok key =>
        let digest := Crypto.Sha256.digest certificate.contents
        return ⟨key, String.ofList (Base64.encode .urlSafe false digest)⟩

/-- The head of a signed statement. -/
def header (s : Signer) : String :=
  (Json.object
    [("typ", .text "JWT"), ("alg", .text "RS256"), ("x5t#S256", .text s.thumbprint)]).render

/-- A whole number as JSON. -/
def whole (n : Int) : Json := if 0 ≤ n then .natural n.toNat else .negative n

/-- What is stated: the client speaks for itself to the audience, for ten minutes. -/
def claims (clientId audience : String) (now : Instant) (nonce : String) : String :=
  (Json.object
    [("aud", .text audience), ("exp", whole (now.seconds + 600)), ("iat", whole now.seconds),
     ("iss", .text clientId), ("jti", .text nonce), ("nbf", whole now.seconds),
     ("sub", .text clientId)]).render

/-- A text in base 64 for the web, without padding. -/
def segment (s : String) : List Char := Base64.encode .urlSafe false (Url.bytesOf s.toList)

/-- The signed statement. -/
def assertion (s : Signer) (clientId audience : String) (now : Instant) (nonce : String) :
    Except IdentityError String :=
  let unsigned := segment s.header ++ '.' :: segment (claims clientId audience now nonce)
  match Rsa.read s.key >>= fun k => (Rsa.check k).map fun _ => k with
  | .error f =>
    .error (.credential ("Failed to sign client assertion: RSA key invalid: " ++ f.message))
  | .ok k =>
    let signature := Rsa.sign k (Url.bytesOf unsigned)
    .ok (String.ofList (unsigned ++ '.' :: Base64.encode .urlSafe false signature))

end Signer

/-- What a service principal signs in with. -/
inductive ClientProof
  | secret (s : String)
  | signer (s : Signer)
  deriving DecidableEq, Repr

/-- An application and where it asks for tokens. -/
structure ServicePrincipal where
  clientId : String
  tokenUrl : String
  scope : String
  proof : ClientProof
  deriving DecidableEq, Repr

/-- Takes slashes off the end. -/
def withoutSlashes (s : String) : String :=
  String.ofList (s.toList.reverse.dropWhile (· == '/')).reverse

namespace ServicePrincipal

/-- Sets up a service principal. Fails if its certificate cannot be used. -/
def create (tenantId clientId : String) (a : ClientAuthentication) (scope authority : String) :
    Except ConfigurationError ServicePrincipal := do
  let proof ← match a with
    | .secret s => pure (ClientProof.secret s)
    | .certificate c => (Signer.ofCertificate c).map ClientProof.signer
  let tokenUrl := withoutSlashes authority ++ "/" ++ tenantId ++ "/oauth2/v2.0/token"
  return { clientId, tokenUrl, scope, proof }

/-- The pairs of a request. -/
def parameters (p : ServicePrincipal) (now : Instant) (nonce : String) :
    Except IdentityError (List (String × String)) := do
  let proof ← match p.proof with
    | .secret s => pure [("client_secret", s)]
    | .signer s => do
      let a ← s.assertion p.clientId p.tokenUrl now nonce
      pure [("client_assertion_type", "urn:ietf:params:oauth:client-assertion-type:jwt-bearer"),
        ("client_assertion", a)]
  return [("grant_type", "client_credentials"), ("client_id", p.clientId), ("scope", p.scope)] ++
    proof

/-- The token in the body of a reply that came at `now`. -/
def tokenOf (body : List UInt8) (now : Instant) : Except IdentityError AccessToken :=
  match Json.membersOfBytes? ["access_token", "expires_in"] body with
  | some [some (.text secret), some (.natural lifetime)] =>
    match (Span.ofUnsigned? lifetime).bind now.add? with
    | some t => .ok ⟨secret, t⟩
    | none => .error (.invalidResponse ("expires_in out of range: " ++ toString lifetime))
  | _ => .error (.invalidResponse "Failed to parse token response: error decoding response body")

/-- The request for a token. -/
def request (p : ServicePrincipal) (s : Surroundings) : Except IdentityError HttpRequest := do
  let pairs ← p.parameters s.now s.nonce
  let url ← target p.tokenUrl
  return { method := "POST", url, form := some (String.ofList (Url.Form.render pairs)) }

/-- Asks for a token. -/
def getToken (p : ServicePrincipal) (s : Surroundings) : Except IdentityError AccessToken := do
  let reply ← send s.peer (← p.request s)
  if isSuccess reply.status then tokenOf reply.body s.now else throw (serviceError reply)

end ServicePrincipal
end Identity
end TokenKeeper
