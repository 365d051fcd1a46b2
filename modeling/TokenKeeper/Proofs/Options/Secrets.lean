import TokenKeeper.Options.Provider

/-!
# Diagnostics without secrets

What diagnostics show does not depend on secrets. A veil takes the contents of all secrets out of
a value and leaves whether they are there. A value shows what its veiled form shows, and behind the
veil a credential is selected in the same way, so that two sets of options with one veiled form
cannot be told apart by what is shown of them.
-/

namespace TokenKeeper

/-- Whether there is a secret, without its contents. -/
def veil (secret : Option String) : Option String := secret.map fun _ => ""

theorem isSome_veil (secret : Option String) : (veil secret).isSome = secret.isSome :=
  Option.isSome_map

theorem hidden_veil (secret : Option String) :
    Options.hidden (veil secret) = Options.hidden secret := by
  rw [Options.hidden, Options.hidden, veil, Option.map_map]
  rfl

/-! ## Certificates -/

namespace ClientCertificate

/-- A certificate without its contents, and without those of its key. -/
def veiled (c : ClientCertificate) : ClientCertificate where
  certificatePem := ""
  privateKeyPem := veil c.privateKeyPem

theorem shown_veiled (c : ClientCertificate) : c.veiled.shown = c.shown := by
  have key : (veil c.privateKeyPem).map (fun _ => Text.redacted) =
      c.privateKeyPem.map fun _ => Text.redacted := Option.map_map ..
  simp only [shown, veiled, key]

end ClientCertificate

namespace Identity.ClientAuthentication

/-- A proof without what it consists of. -/
def veiled : ClientAuthentication → ClientAuthentication
  | secret _ => secret ""
  | certificate c => certificate c.veiled

theorem shown_veiled (a : ClientAuthentication) : a.veiled.shown = a.shown := by
  cases a with
  | secret s => rfl
  | certificate c => exact congrArg ("Certificate(" ++ · ++ ")") c.shown_veiled

end Identity.ClientAuthentication

/-! ## Selections -/

namespace Selection

/-- A selection without the secrets in it. -/
def veiled : Selection → Selection
  | servicePrincipal tenant client authentication =>
    servicePrincipal tenant client authentication.veiled
  | s => s

theorem shown_veiled (s : Selection) : s.veiled.shown = s.shown := by
  cases s with
  | servicePrincipal tenant client authentication =>
      exact congrArg (fun proof => Text.record "ServicePrincipal"
        [("tenant_id", Text.quoted tenant), ("client_id", Text.quoted client),
         ("authentication", proof)] false) authentication.shown_veiled
  | accessKey => rfl
  | tokenCredential => rfl
  | managedIdentity id => rfl

end Selection

/-! ## Options -/

namespace Options

/-- Options without the contents of secrets, access keys, certificates and private keys. -/
def veiled (o : Options) : Options :=
  { o with
    secret := veil o.secret
    certificate := o.certificate.map ClientCertificate.veiled
    accessKey := veil o.accessKey }

theorem shown_veiled (o : Options) : o.veiled.shown = o.shown := by
  have certificate : (o.certificate.map ClientCertificate.veiled).map ClientCertificate.shown =
      o.certificate.map ClientCertificate.shown := by
    rw [Option.map_map]
    exact congrArg (o.certificate.map ·) (funext ClientCertificate.shown_veiled)
  simp only [shown, veiled, hidden_veil, certificate]
  rfl

end Options

namespace Selection

/-- The parts of a service principal are found, or missed, behind the veil as well. -/
theorem ofServicePrincipal_veiled (o : Options) :
    ofServicePrincipal o.veiled = (ofServicePrincipal o).map veiled := by
  have secret : o.veiled.secret = veil o.secret := rfl
  have certificate : o.veiled.certificate = o.certificate.map ClientCertificate.veiled := rfl
  have client : o.veiled.clientId = o.clientId := rfl
  have tenant : o.veiled.tenantId = o.tenantId := rfl
  simp only [ofServicePrincipal, secret, certificate, client, tenant]
  cases o.clientId with
  | none => rfl
  | some client =>
      cases o.tenantId with
      | none => rfl
      | some tenant => cases o.secret <;> cases o.certificate <;> rfl

/-- The credential that options describe is selected without a look at secrets. -/
theorem ofOptions_veiled (o : Options) : ofOptions o.veiled = (ofOptions o).map veiled := by
  have secret : o.veiled.secret.isSome = o.secret.isSome := isSome_veil _
  have certificate : o.veiled.certificate.isSome = o.certificate.isSome := Option.isSome_map
  have accessKey : o.veiled.accessKey.isSome = o.accessKey.isSome := isSome_veil _
  have client : o.veiled.clientId = o.clientId := rfl
  have tenant : o.veiled.tenantId = o.tenantId := rfl
  have application : o.veiled.tokenCredential = o.tokenCredential := rfl
  simp only [ofOptions, secret, certificate, accessKey, client, tenant, application,
    ofServicePrincipal_veiled]
  split
  · split <;> rfl
  · split
    · split <;> rfl
    · split <;> rfl

theorem map_shown_veiled (o : Options) :
    (ofOptions o.veiled).map shown = (ofOptions o).map shown := by
  rw [ofOptions_veiled]
  cases ofOptions o with
  | error e => rfl
  | ok s => exact congrArg Except.ok s.shown_veiled

end Selection

/-- Options that differ in the contents of their secrets only are shown alike, describe the same
kind of credential or are refused for the same reason, and what they describe is shown alike. So
are tokens, credentials and access keys that differ in nothing but the secret. -/
theorem secrets_never_shown :
    (∀ a b : Options, a.veiled = b.veiled →
      a.shown = b.shown ∧
      (Selection.ofOptions a).map Selection.veiled = (Selection.ofOptions b).map Selection.veiled ∧
      (Selection.ofOptions a).map Selection.shown = (Selection.ofOptions b).map Selection.shown) ∧
    (∀ (t : Token) (secret : String), { t with secret }.shown = t.shown) ∧
    (∀ (t : AccessToken) (secret : String), { t with secret }.shown = t.shown) ∧
    (∀ (c : Credential) (password : String), { c with password }.shown = c.shown) ∧
    (∀ (p : AccessKeyProvider) (key : String), { p with key }.shown = p.shown) := by
  refine ⟨fun a b same => ⟨?_, ?_, ?_⟩, ?_, ?_, ?_, ?_⟩
  · rw [← a.shown_veiled, same, b.shown_veiled]
  · rw [← Selection.ofOptions_veiled, same, Selection.ofOptions_veiled]
  · rw [← Selection.map_shown_veiled, same, Selection.map_shown_veiled]
  · exact fun t secret => rfl
  · exact fun t secret => rfl
  · exact fun c password => rfl
  · exact fun p key => rfl

/-- Two certificates, both with a key. -/
theorem secrets_of_certificates_never_shown :
    let a := Options.ofCertificate "c" "p" "t" ⟨"first", some "key"⟩
    let b := Options.ofCertificate "c" "p" "t" ⟨"second", some "another key"⟩
    a.veiled = b.veiled ∧ a.shown = b.shown ∧
      (Selection.ofOptions a).map Selection.shown =
        (Selection.ofOptions b).map Selection.shown := by
  intro a b
  have same : a.veiled = b.veiled := rfl
  obtain ⟨options, -, selections⟩ := secrets_never_shown.1 a b same
  exact ⟨same, options, selections⟩

end TokenKeeper
