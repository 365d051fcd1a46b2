import TokenKeeper.Engine.Check
import TokenKeeper.Options.Selection

/-!
# Providers of credentials

What the transport of a connection is given: a fixed access key, or an engine that keeps a token
current. Both ask for an encrypted connection and keep trying when the first connect fails.
-/

namespace TokenKeeper

/-- A fixed access key. -/
structure AccessKeyProvider where
  key : String
  username : Option String
  deriving DecidableEq, Repr

namespace AccessKeyProvider

def credential (p : AccessKeyProvider) : Credential := ⟨p.username, p.key⟩

/-- The provider as diagnostics show it. -/
def shown (p : AccessKeyProvider) : String :=
  Text.record "AccessKeyProvider" [("username", Text.optionalQuoted p.username)] true

end AccessKeyProvider

/-- Who provides credentials. -/
inductive Provider
  | accessKey (p : AccessKeyProvider)
  /-- An engine, and where its tokens come from. It still has to acquire the first one. -/
  | engine (backend : Identity.Backend) (e : Engine)

namespace Provider

def requiresTls : Bool := true

def abortOnConnectFail : Bool := false

/-- The name that connections report to the server. -/
def libraryName : String := "azure-redis-auth"

/-- The engine that options describe. The backend is set up before the policy is looked at. -/
def engineOf (o : Options) : Except AuthError Provider := do
  let backend ← (Identity.Backend.ofOptions o).mapError .configuration
  let policy ← o.refreshPolicy.mapError .configuration
  let e ← Engine.build policy o.principalId true
  return .engine backend e

/-- The provider that options describe. -/
def ofOptions (o : Options) : Except AuthError Provider := do
  match ← (Selection.ofOptions o).mapError .configuration with
  | .accessKey =>
    match o.accessKey with
    | some key => return .accessKey ⟨key, o.accessKeyUser⟩
    | none => throw (.configuration (.missing "access_key" "no access key supplied"))
  | _ => engineOf o

end Provider
end TokenKeeper
