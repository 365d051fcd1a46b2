import TokenKeeper.Identity.ServicePrincipal
import TokenKeeper.Policy.Basic

/-!
# Options

All settings of an application in one record, most of them optional. Which credential they
describe is decided elsewhere; here are their defaults, the ways to build them, the refresh
policy that they stand for, and their form in diagnostics, which shows no secret.
-/

namespace TokenKeeper

/-- The settings of an application. -/
structure Options where
  /-- The object id of the identity, which is its username. -/
  principalId : Option String := none
  clientId : Option String := none
  tenantId : Option String := none
  secret : Option String := none
  certificate : Option ClientCertificate := none
  accessKey : Option String := none
  /-- The username that goes with an access key. -/
  accessKeyUser : Option String := none
  scope : Option String := none
  authorityHost : Option String := none
  imdsEndpoint : Option String := none
  heartbeatSeconds : Option Nat := none
  maxAttempts : Option Nat := none
  timeoutSeconds : Option Nat := none
  timeoutIncrementSeconds : Option Nat := none
  refreshDue : Option RefreshDue := none
  immediateRetries : Option Nat := none
  /-- Whether the application brings tokens itself. -/
  tokenCredential : Bool := false
  backoff : Option Backoff := none

namespace Options

instance : Inhabited Options := ⟨{}⟩

/-! ## Ways to build options -/

def ofSystemIdentity (principal : String) : Options := { principalId := some principal }

def ofUserIdentity (client principal : String) : Options :=
  { clientId := some client, principalId := some principal }

def ofSecret (client principal tenant secret : String) : Options :=
  { clientId := some client, principalId := some principal, tenantId := some tenant,
    secret := some secret }

def ofCertificate (client principal tenant : String) (c : ClientCertificate) : Options :=
  { clientId := some client, principalId := some principal, tenantId := some tenant,
    certificate := some c }

def ofTokenCredential : Options := { tokenCredential := true }

def ofAccessKey (key : String) : Options := { accessKey := some key }

def withPrincipalId (o : Options) (principal : String) : Options :=
  { o with principalId := some principal }

def withScope (o : Options) (scope : String) : Options := { o with scope := some scope }

/-- Sets the heartbeat in whole seconds: a fraction counts as a second, and there is at least
one. The second that a fraction adds may be one too many for 64 bits. -/
def setHeartbeat? (o : Options) (excess : Width.Excess) (interval : Duration) : Option Options :=
  (Width.sum64? excess interval.seconds interval.carry).map fun seconds =>
    { o with heartbeatSeconds := some (Nat.max 1 seconds) }

/-- Sets the heartbeat where sums are checked. -/
def withHeartbeat? (o : Options) (interval : Duration) : Option Options :=
  o.setHeartbeat? .panics interval

def withRefreshDue (o : Options) (due : RefreshDue) : Options := { o with refreshDue := some due }

def withBackoff (o : Options) (backoff : Backoff) : Options := { o with backoff := some backoff }

/-! ## Settings with their defaults -/

def scopeOrDefault (o : Options) : String := o.scope.getD "https://redis.azure.com/.default"

/-- The host of the authority, without slashes at its end. -/
def authority (o : Options) : String :=
  Identity.withoutSlashes (o.authorityHost.getD "https://login.microsoftonline.com")

def endpoint (o : Options) : String :=
  o.imdsEndpoint.getD "http://169.254.169.254/metadata/identity/oauth2/token"

/-- The policy before it is looked at. -/
def unchecked (o : Options) : RefreshPolicy :=
  let d := RefreshPolicy.standard
  let seconds (n : Option Nat) (default : Duration) : Duration :=
    match n with
    | some n => .ofSeconds n
    | none => default
  { maxAttempts := o.maxAttempts.getD d.maxAttempts
    timeouts :=
      { initial := seconds o.timeoutSeconds d.timeouts.initial
        increment := seconds o.timeoutIncrementSeconds d.timeouts.increment }
    backoff := o.backoff.getD d.backoff
    refreshDue := o.refreshDue.getD d.refreshDue
    heartbeat := seconds o.heartbeatSeconds d.heartbeat
    immediateRetries := o.immediateRetries.getD d.immediateRetries }

/-- The refresh policy, if it is valid. -/
def refreshPolicy (o : Options) : Except ConfigurationError RefreshPolicy :=
  o.unchecked.validate.map fun _ => o.unchecked

/-! ## Diagnostics -/

/-- A secret shows only whether it is there. -/
def hidden (s : Option String) : String := Text.optional (s.map fun _ => Text.redacted)

/-- The options as diagnostics show them. -/
def shown (o : Options) : String :=
  Text.record "AuthOptions"
    [("principal_id", Text.optionalQuoted o.principalId),
     ("client_id", Text.optionalQuoted o.clientId),
     ("service_principal_tenant_id", Text.optionalQuoted o.tenantId),
     ("service_principal_secret", hidden o.secret),
     ("service_principal_certificate", Text.optional (o.certificate.map ClientCertificate.shown)),
     ("access_key", hidden o.accessKey),
     ("access_key_user", Text.optionalQuoted o.accessKeyUser),
     ("scope", Text.optionalQuoted o.scope),
     ("authority_host", Text.optionalQuoted o.authorityHost),
     ("imds_endpoint", Text.optionalQuoted o.imdsEndpoint),
     ("heartbeat_interval_secs", Text.optional (o.heartbeatSeconds.map toString)),
     ("max_token_refresh_attempts", Text.optional (o.maxAttempts.map toString)),
     ("refresh_due", Text.optional (o.refreshDue.map RefreshDue.shown)),
     ("token_credential",
        Text.optional (if o.tokenCredential then some (Text.quoted "..") else none))]
    true

end Options
end TokenKeeper
