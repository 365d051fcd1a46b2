import TokenKeeper.Json
import TokenKeeper.Options.Basic

/-!
# Reading options

Options are read from a tree of values: from an object by name, with unknown names passed over,
or from an array by position. How scalars are taken differs by source. In an object that was
meant for options, text is text and numbers are numbers; settings from files and from the
environment are converted where that makes sense. The rule for renewal is read strictly in
either case.
-/

namespace TokenKeeper

/-- How a source gives scalars. -/
structure Conversion where
  text? : Json → Option String
  /-- A whole number of at most 64 bits without a sign. -/
  natural? : Json → Option Nat
  /-- Whether an array may have more items than there are settings. -/
  allowsMore : Bool

namespace Conversion

def strictNatural? : Json → Option Nat
  | .natural n => some n
  | _ => none

/-- Nothing is converted. -/
def strict : Conversion := ⟨Json.text?, strictNatural?, false⟩

/-- The text of a scalar. -/
def textOf? : Json → Option String
  | .text s => some s
  | .boolean b => some (if b then "true" else "false")
  | .natural n => some (toString n)
  | .negative n => some (toString n)
  | .decimal x => some (Decimal.plain x)
  | _ => none

/-- A 64-bit number without a sign, with an optional plus in front. -/
def unsigned? (cs : List Char) : Option Nat :=
  let digits := match cs with
    | '+' :: rest => rest
    | cs => cs
  if digits.isEmpty ∨ !digits.all Char.isDigit then none
  else
    let n := Decimal.digitsValue digits
    if n < Width.bound64 then some n else none

/-- The number that a text stands for; some words stand for one and zero. -/
def numberOf? (s : String) : Option Nat :=
  let word := s.toLower
  if word ∈ ["true", "on", "yes"] then some 1
  else if word ∈ ["false", "off", "no"] then some 0
  else unsigned? s.toList

/-- The nearest whole number of 64 bits, a half away from zero; no number counts as zero. -/
def rounded (x : Float) : Nat := x.round.toUInt64.toNat

/-- The number of a scalar. -/
def naturalOf? : Json → Option Nat
  | .natural n => if n < Width.bound64 then some n else none
  | .boolean b => some (if b then 1 else 0)
  | .decimal x => some (rounded x)
  | .text s => numberOf? s
  | _ => none

/-- Scalars are converted. -/
def lenient : Conversion := ⟨textOf?, naturalOf?, true⟩

end Conversion

/-- A setting that may be absent: absent from its object, or null. -/
def readOptional {α : Type} (read : Json → Option α) : Option Json → Option (Option α)
  | none => some none
  | some .null => some none
  | some j => (read j).map some

namespace RefreshDue

/-- The rule of a kind from its values, by name or by position. -/
def ofKind? (kind : String) (rest : Json) : Option RefreshDue :=
  match kind with
  | "expiration_margin" =>
    match rest.members? ["margin_secs"] with
    | some [some (.natural n)] => some (.expirationMargin n)
    | _ => none
  | "lifetime_elapsed" =>
    match rest.members? ["fraction"] with
    | some [some (.natural n)] => some (.lifetimeElapsed (UInt64.ofNat n).toFloat)
    | some [some (.negative n)] => some (.lifetimeElapsed (Int64.ofInt n).toFloat)
    | some [some (.decimal x)] => some (.lifetimeElapsed x)
    | _ => none
  | _ => none

/-- Reads a rule: its kind, and the value of that kind. -/
def ofJson? (j : Json) : Option RefreshDue :=
  match j with
  | .object _ =>
    match j.members? ["kind"] with
    | some [some (.text kind)] => ofKind? kind j
    | _ => none
  | .array (.text kind :: rest) => ofKind? kind (.array rest)
  | _ => none

end RefreshDue

namespace ClientCertificate

/-- Reads a certificate. -/
def ofJson? (c : Conversion) (j : Json) : Option ClientCertificate := do
  let j : Json := match j with
    | .array (a :: b :: _ :: _) => if c.allowsMore then .array [a, b] else j
    | j => j
  match ← j.members? ["certificate_pem", "private_key_pem"] with
  | [some certificate, key] =>
    return ⟨← c.text? certificate, ← readOptional c.text? key⟩
  | _ => none

end ClientCertificate

namespace Options

/-- The names of the settings, in the order of an array. -/
def names : List String :=
  ["principal_id", "client_id", "service_principal_tenant_id", "service_principal_secret",
   "service_principal_certificate", "access_key", "access_key_user", "scope", "authority_host",
   "imds_endpoint", "heartbeat_interval_secs", "max_token_refresh_attempts",
   "attempt_timeout_secs", "attempt_timeout_increment_secs", "refresh_due",
   "immediate_reauthentication_retries"]

/-- A number of 32 bits. -/
def short? (c : Conversion) (j : Json) : Option Nat :=
  (c.natural? j).bind fun n => if n < Width.bound32 then some n else none

/-- The values of the settings, in the order of their names. A short array leaves the last ones
out. -/
def values? (j : Json) : Option (List (Option Json)) :=
  match j with
  | .array items =>
    if items.length ≤ names.length then
      some (items.map some ++ List.replicate (names.length - items.length) none)
    else none
  | j => j.members? names

/-- Reads options. -/
def ofJson? (c : Conversion) (j : Json) : Option Options := do
  match ← values? j with
  | [principal, client, tenant, secret, certificate, key, user, scope, authority, imds, heartbeat,
      attempts, timeout, increment, due, retries] =>
    return {
      principalId := ← readOptional c.text? principal
      clientId := ← readOptional c.text? client
      tenantId := ← readOptional c.text? tenant
      secret := ← readOptional c.text? secret
      certificate := ← readOptional (ClientCertificate.ofJson? c) certificate
      accessKey := ← readOptional c.text? key
      accessKeyUser := ← readOptional c.text? user
      scope := ← readOptional c.text? scope
      authorityHost := ← readOptional c.text? authority
      imdsEndpoint := ← readOptional c.text? imds
      heartbeatSeconds := ← readOptional c.natural? heartbeat
      maxAttempts := ← readOptional (short? c) attempts
      timeoutSeconds := ← readOptional c.natural? timeout
      timeoutIncrementSeconds := ← readOptional c.natural? increment
      refreshDue := ← readOptional RefreshDue.ofJson? due
      immediateRetries := ← readOptional (short? c) retries }
  | _ => none

end Options
end TokenKeeper
