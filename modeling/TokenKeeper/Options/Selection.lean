import TokenKeeper.Identity.ManagedIdentity
import TokenKeeper.Options.Basic

/-!
# The credential that options describe

The settings of different credentials exclude each other. From the one that is described follows
where tokens come from; an access key needs no tokens at all.
-/

namespace TokenKeeper

open Identity

/-- The credential that options describe. -/
inductive Selection
  | accessKey
  | tokenCredential
  | servicePrincipal (tenantId clientId : String) (authentication : ClientAuthentication)
  | managedIdentity (id : ManagedIdentityId)
  deriving DecidableEq, Repr

namespace Selection

/-- The selection as diagnostics show it. -/
def shown : Selection → String
  | accessKey => "AccessKey"
  | tokenCredential => "TokenCredential"
  | servicePrincipal tenant client authentication =>
    Text.record "ServicePrincipal"
      [("tenant_id", Text.quoted tenant), ("client_id", Text.quoted client),
       ("authentication", authentication.shown)] false
  | managedIdentity id => "ManagedIdentity(" ++ id.shown ++ ")"

/-- The service principal that options describe. -/
def ofServicePrincipal (o : Options) : Except ConfigurationError Selection :=
  match o.clientId, o.tenantId, o.secret, o.certificate with
  | none, _, _, _ =>
    .error (.missing "client_id" "required for service principal authentication")
  | _, none, _, _ =>
    .error (.missing "service_principal_tenant_id" "required for service principal authentication")
  | some client, some tenant, some secret, none =>
    .ok (.servicePrincipal tenant client (.secret secret))
  | some client, some tenant, none, some certificate =>
    .ok (.servicePrincipal tenant client (.certificate certificate))
  | _, _, some _, some _ =>
    .error (.conflict
      "service_principal_secret and service_principal_certificate are mutually exclusive")
  | _, _, none, none =>
    .error (.missing "service_principal_secret"
      "a service principal needs either a secret or a certificate")

/-- Decides which credential options describe. -/
def ofOptions (o : Options) : Except ConfigurationError Selection :=
  let servicePrincipal := o.tenantId.isSome || o.secret.isSome || o.certificate.isSome
  if o.accessKey.isSome then
    if servicePrincipal || o.tokenCredential || o.clientId.isSome then
      .error (.conflict "access_key cannot be combined with identity settings")
    else .ok .accessKey
  else if o.tokenCredential then
    if servicePrincipal then
      .error (.conflict "token_credential cannot be combined with service principal settings")
    else .ok .tokenCredential
  else if servicePrincipal then ofServicePrincipal o
  else .ok (.managedIdentity (.ofClientId o.clientId))

end Selection

namespace Identity

/-- The kinds of sources of tokens. -/
inductive IdentityKind
  | systemAssignedManagedIdentity
  | userAssignedManagedIdentity
  | servicePrincipalSecret
  | servicePrincipalCertificate
  | tokenCredential
  deriving DecidableEq, Repr

/-- Where tokens come from. -/
inductive Backend
  | managedIdentity (m : ManagedIdentity)
  | servicePrincipal (p : ServicePrincipal)
  /-- The application, which is asked for a scope. -/
  | application (scope : String)
  deriving DecidableEq, Repr

namespace Backend

def kind : Backend → IdentityKind
  | managedIdentity m =>
    match m.id with
    | .systemAssigned => .systemAssignedManagedIdentity
    | _ => .userAssignedManagedIdentity
  | servicePrincipal p =>
    match p.proof with
    | .secret _ => .servicePrincipalSecret
    | .signer _ => .servicePrincipalCertificate
  | application _ => .tokenCredential

/-- The backend of a selection. -/
def ofSelection (s : Selection) (o : Options) : Except ConfigurationError Backend :=
  match s with
  | .accessKey =>
    .error (.invalid "access_key" "access keys authenticate without an identity backend")
  | .tokenCredential => .ok (.application o.scopeOrDefault)
  | .servicePrincipal tenant client authentication =>
    (ServicePrincipal.create tenant client authentication o.scopeOrDefault o.authority).map
      .servicePrincipal
  | .managedIdentity id =>
    .ok (.managedIdentity ⟨id, o.endpoint, resourceOf o.scopeOrDefault⟩)

/-- The backend that options describe. -/
def ofOptions (o : Options) : Except ConfigurationError Backend := do
  ofSelection (← Selection.ofOptions o) o

end Backend
end Identity
end TokenKeeper
