import Mathlib
import TokenKeeper.Proofs.Settings.Spelling
import TokenKeeper.Proofs.Settings.Tree

/-!
# Options from variables

A variable for an option that is text decides this option and nothing else: whatever the other
variables and the file say, the option is the text of the variable as it comes back, and every other
option is what it is without the variable. The text comes back unless it looks like a value in an
unusual spelling, so a key of digits can lose the zeros in front of it.
-/

namespace TokenKeeper

/-- The options that are text. -/
inductive TextOption
  | principalId
  | clientId
  | tenantId
  | secret
  | accessKey
  | accessKeyUser
  | scope
  | authorityHost
  | imdsEndpoint
  deriving DecidableEq, Repr

namespace TextOption

/-- The name of the setting. -/
def name : TextOption → String
  | principalId => "principal_id"
  | clientId => "client_id"
  | tenantId => "service_principal_tenant_id"
  | secret => "service_principal_secret"
  | accessKey => "access_key"
  | accessKeyUser => "access_key_user"
  | scope => "scope"
  | authorityHost => "authority_host"
  | imdsEndpoint => "imds_endpoint"

/-- The variable for the option, in the usual capitals. -/
def variableName (f : TextOption) : String :=
  "AZURE_REDIS_" ++ String.ofList (f.name.toList.map Char.toUpper)

def get (f : TextOption) (o : Options) : Option String :=
  match f with
  | principalId => o.principalId
  | clientId => o.clientId
  | tenantId => o.tenantId
  | secret => o.secret
  | accessKey => o.accessKey
  | accessKeyUser => o.accessKeyUser
  | scope => o.scope
  | authorityHost => o.authorityHost
  | imdsEndpoint => o.imdsEndpoint

/-- The options with this one set. -/
def put (f : TextOption) (o : Options) (s : String) : Options :=
  match f with
  | principalId => { o with principalId := some s }
  | clientId => { o with clientId := some s }
  | tenantId => { o with tenantId := some s }
  | secret => { o with secret := some s }
  | accessKey => { o with accessKey := some s }
  | accessKeyUser => { o with accessKeyUser := some s }
  | scope => { o with scope := some s }
  | authorityHost => { o with authorityHost := some s }
  | imdsEndpoint => { o with imdsEndpoint := some s }

variable {f g : TextOption}

@[simp] theorem get_put (f : TextOption) (o : Options) (s : String) :
    f.get (f.put o s) = some s := by
  cases f <;> rfl

theorem get_put_of_ne (different : g ≠ f) (o : Options) (s : String) :
    g.get (f.put o s) = g.get o := by
  cases f <;> cases g <;> first | rfl | exact absurd rfl different

theorem name_injective : Function.Injective name := by
  intro f g same
  cases f <;> cases g <;> first | rfl | exact absurd same (by decide)

/-- Whether a variable is for the option or for a part of it. -/
def Concerns (f : TextOption) (n : String) : Prop :=
  ∃ s, Settings.Environment.setting? n = some s ∧ Settings.Step.LeadsTo s f.name

theorem path_name (f : TextOption) : Settings.Step.path f.name = [.name f.name] := by
  cases f <;> decide

theorem setting?_variableName (f : TextOption) :
    Settings.Environment.setting? f.variableName = some f.name := by
  cases f <;> decide

end TextOption

namespace Options

open Settings Json

variable {c : Conversion} {j j' : Json} {o : Options} {f : TextOption}

/-- What the settings of a table stand for, one by one. -/
structure Reads (c : Conversion) (j : Json) (o : Options) : Prop where
  texts : ∀ f : TextOption, readOptional c.text? (j.get? f.name) = some (f.get o)
  certificate : readOptional (ClientCertificate.ofJson? c)
    (j.get? "service_principal_certificate") = some o.certificate
  heartbeat : readOptional c.natural? (j.get? "heartbeat_interval_secs") = some o.heartbeatSeconds
  attempts : readOptional (short? c) (j.get? "max_token_refresh_attempts") = some o.maxAttempts
  timeout : readOptional c.natural? (j.get? "attempt_timeout_secs") = some o.timeoutSeconds
  increment : readOptional c.natural? (j.get? "attempt_timeout_increment_secs") =
    some o.timeoutIncrementSeconds
  due : readOptional RefreshDue.ofJson? (j.get? "refresh_due") = some o.refreshDue
  retries : readOptional (short? c) (j.get? "immediate_reauthentication_retries") =
    some o.immediateRetries
  /-- What the application brings itself is no setting. -/
  hooks : o.tokenCredential = false ∧ o.backoff = none

theorem ofJson?_eq_some_iff (table : j.IsTable) : ofJson? c j = some o ↔ Reads c j o := by
  have values : values? j = some (names.map j.get?) := by
    rw [← table.members?_eq]
    obtain ⟨members, rfl, _⟩ := table
    rfl
  rw [ofJson?, values]
  constructor
  · intro read
    replace read : (readOptional c.text? (j.get? "principal_id")).bind _ = some o := read
    -- The settings are read one after another.
    obtain ⟨_, h1, read⟩ := Option.bind_eq_some_iff.mp read
    obtain ⟨_, h2, read⟩ := Option.bind_eq_some_iff.mp read
    obtain ⟨_, h3, read⟩ := Option.bind_eq_some_iff.mp read
    obtain ⟨_, h4, read⟩ := Option.bind_eq_some_iff.mp read
    obtain ⟨_, h5, read⟩ := Option.bind_eq_some_iff.mp read
    obtain ⟨_, h6, read⟩ := Option.bind_eq_some_iff.mp read
    obtain ⟨_, h7, read⟩ := Option.bind_eq_some_iff.mp read
    obtain ⟨_, h8, read⟩ := Option.bind_eq_some_iff.mp read
    obtain ⟨_, h9, read⟩ := Option.bind_eq_some_iff.mp read
    obtain ⟨_, h10, read⟩ := Option.bind_eq_some_iff.mp read
    obtain ⟨_, h11, read⟩ := Option.bind_eq_some_iff.mp read
    obtain ⟨_, h12, read⟩ := Option.bind_eq_some_iff.mp read
    obtain ⟨_, h13, read⟩ := Option.bind_eq_some_iff.mp read
    obtain ⟨_, h14, read⟩ := Option.bind_eq_some_iff.mp read
    obtain ⟨_, h15, read⟩ := Option.bind_eq_some_iff.mp read
    obtain ⟨_, h16, read⟩ := Option.bind_eq_some_iff.mp read
    obtain rfl := Option.some.inj read
    refine ⟨?_, h5, h11, h12, h13, h14, h15, h16, rfl, rfl⟩
    intro f
    cases f <;> assumption
  · intro h
    obtain ⟨texts, h5, h11, h12, h13, h14, h15, h16, credential, backoff⟩ := h
    cases o
    cases credential
    cases backoff
    show (readOptional c.text? (j.get? "principal_id")).bind _ = _
    refine Option.bind_eq_some_iff.mpr ⟨_, texts .principalId, ?_⟩
    refine Option.bind_eq_some_iff.mpr ⟨_, texts .clientId, ?_⟩
    refine Option.bind_eq_some_iff.mpr ⟨_, texts .tenantId, ?_⟩
    refine Option.bind_eq_some_iff.mpr ⟨_, texts .secret, Option.bind_eq_some_iff.mpr ⟨_, h5, ?_⟩⟩
    refine Option.bind_eq_some_iff.mpr ⟨_, texts .accessKey, ?_⟩
    refine Option.bind_eq_some_iff.mpr ⟨_, texts .accessKeyUser, ?_⟩
    refine Option.bind_eq_some_iff.mpr ⟨_, texts .scope, ?_⟩
    refine Option.bind_eq_some_iff.mpr ⟨_, texts .authorityHost, ?_⟩
    refine Option.bind_eq_some_iff.mpr ⟨_, texts .imdsEndpoint, ?_⟩
    refine Option.bind_eq_some_iff.mpr ⟨_, h11, Option.bind_eq_some_iff.mpr ⟨_, h12, ?_⟩⟩
    refine Option.bind_eq_some_iff.mpr ⟨_, h13, Option.bind_eq_some_iff.mpr ⟨_, h14, ?_⟩⟩
    exact Option.bind_eq_some_iff.mpr ⟨_, h15, Option.bind_eq_some_iff.mpr ⟨_, h16, rfl⟩⟩

/-- A setting of text decides its option and no other one. -/
theorem Reads.put {s : String} (h : Reads c j o) (off : AgreeOff f.name j j')
    (read : readOptional c.text? (j'.get? f.name) = some (some s)) : Reads c j' (f.put o s) := by
  have kept (name : String) (different : name ≠ f.name) : j'.get? name = j.get? name :=
    (off.same name different).symm
  refine ⟨?_, ?_, ?_, ?_, ?_, ?_, ?_, ?_, ?_⟩
  · intro g
    by_cases same : g = f
    · rw [same, read, TextOption.get_put]
    · rw [kept _ fun named => same (TextOption.name_injective named), h.texts,
        TextOption.get_put_of_ne same]
  · rw [kept _ (by cases f <;> decide), h.certificate]
    cases f <;> rfl
  · rw [kept _ (by cases f <;> decide), h.heartbeat]
    cases f <;> rfl
  · rw [kept _ (by cases f <;> decide), h.attempts]
    cases f <;> rfl
  · rw [kept _ (by cases f <;> decide), h.timeout]
    cases f <;> rfl
  · rw [kept _ (by cases f <;> decide), h.increment]
    cases f <;> rfl
  · rw [kept _ (by cases f <;> decide), h.due]
    cases f <;> rfl
  · rw [kept _ (by cases f <;> decide), h.retries]
    cases f <;> rfl
  · cases f <;> exact h.hooks

section Variable

open Settings.Environment

variable {n v w : String} {before after : List (String × String)}

/-- What has a text is there. -/
theorem readOptional_of_text (text : Conversion.textOf? j = some v) :
    readOptional Conversion.lenient.text? (some j) = some (some v) := by
  have read : Conversion.lenient.text? j = some v := text
  cases j with
  | null => cases text
  | _ => simp only [readOptional, read, Option.map_some]

/-- A variable differs from its absence in its own setting only, and a variable that comes last for
its setting decides it. -/
theorem lay_variable (before : List (String × String)) (table : j.IsTable)
    (named : setting? n = some f.name) (v : String)
    (last : ∀ x ∈ after, ¬ f.Concerns x.1) :
    AgreeOff f.name (lay j (settings (before ++ after)))
        (lay j (settings (before ++ (n, v) :: after))) ∧
      (lay j (settings (before ++ (n, v) :: after))).get? f.name = some (value v) := by
  have cut : settings (before ++ (n, v) :: after) =
      settings before ++ (f.name, value v) :: settings after := by
    simp only [settings, List.filterMap_append, List.filterMap_cons, named, Option.map_some]
  have whole : settings (before ++ after) = settings before ++ settings after :=
    List.filterMap_append
  have earlier := lay_isTable table (settings before)
  have there : Step.LeadsTo f.name f.name := by
    rw [Step.LeadsTo, f.path_name]
    rfl
  constructor
  · rw [cut, whole, lay_append, lay_append]
    exact agreeOff_lay (agreeOff_of_put earlier (value v) there) (settings after)
  · have elsewhere : ∀ m ∈ settings after, ¬ Step.LeadsTo m.1 f.name := by
      intro m inside leads
      obtain ⟨x, among, made⟩ := List.mem_filterMap.mp inside
      obtain ⟨s, setting, rfl⟩ := Option.map_eq_some_iff.mp made
      exact last x among ⟨s, setting, leads⟩
    rw [cut, lay_append, lay, List.foldl_cons, ← lay, get?_lay_of_not_leadsTo elsewhere,
      f.path_name, put_name, put_nil, get?_setMember, overlay_of_ne_object _ (value_ne_object v)]

/-- The options of a tree with a variable over it, when the other settings are valid: with another
value of the variable, or without it. -/
theorem ofJson?_variable (table : j.IsTable) (named : setting? n = some f.name)
    (last : ∀ x ∈ after, ¬ f.Concerns x.1)
    (valid : (∃ w, ofJson? .lenient (lay j (settings (before ++ (n, w) :: after))) = some o) ∨
      ofJson? .lenient (lay j (settings (before ++ after))) = some o) (v : String) :
    ofJson? .lenient (lay j (settings (before ++ (n, v) :: after))) =
      some (f.put o (respelt v)) := by
  obtain ⟨off, here⟩ := lay_variable before table named v last
  have read : readOptional Conversion.lenient.text?
      ((lay j (settings (before ++ (n, v) :: after))).get? f.name) = some (some (respelt v)) := by
    rw [here]
    exact readOptional_of_text (textOf?_value v)
  rw [ofJson?_eq_some_iff off.right]
  obtain ⟨w, reads⟩ | reads := valid
  · obtain ⟨off', _⟩ := lay_variable before table named w last
    rw [ofJson?_eq_some_iff off'.right] at reads
    exact reads.put (off'.symm.trans off) read
  · rw [ofJson?_eq_some_iff off.left] at reads
    exact reads.put off read

theorem load_eq_ok_iff {name : String} {content : Option String}
    {environment : List (String × String)} :
    load name content environment = .ok o ↔ ∃ file, ofFile? name content = some file ∧
      ofJson? .lenient (lay (lay (.object []) file) (settings environment)) = some o := by
  unfold load
  cases ofFile? name content with
  | none => simp
  | some file =>
      simp only [Option.some.injEq, exists_eq_left']
      split <;> simp_all

theorem ofEnvironment_eq_ok_iff {environment : List (String × String)} :
    ofEnvironment environment = .ok o ↔
      ofJson? .lenient (lay (.object []) (settings environment)) = some o := by
  unfold ofEnvironment
  dsimp only
  split <;> simp_all

/-- A variable for an option of text, over any file and among any others of which none after it is
for this option or a part of it. When the other settings are valid, with some value of the variable
or without it, then the option is the text of the variable as it comes back, which is the text
itself unless that is altered, and no other option changes. -/
theorem text_of_variable (f : TextOption) (v : String) (named : setting? n = some f.name)
    (last : ∀ x ∈ after, ¬ f.Concerns x.1) :
    (∀ name content o,
      ((∃ w, load name content (before ++ (n, w) :: after) = .ok o) ∨
        load name content (before ++ after) = .ok o) →
      load name content (before ++ (n, v) :: after) = .ok (f.put o (respelt v))) ∧
    (∀ o,
      ((∃ w, ofEnvironment (before ++ (n, w) :: after) = .ok o) ∨
        ofEnvironment (before ++ after) = .ok o) →
      ofEnvironment (before ++ (n, v) :: after) = .ok (f.put o (respelt v))) ∧
    ∀ o, f.get (f.put o (respelt v)) = some v ↔ ¬ Altered v := by
  refine ⟨?_, ?_, ?_⟩
  · intro name content o valid
    simp only [load_eq_ok_iff] at valid ⊢
    obtain ⟨w, file, found, reads⟩ | ⟨file, found, reads⟩ := valid
    · exact ⟨file, found,
        ofJson?_variable (lay_isTable .empty file) named last (.inl ⟨w, reads⟩) v⟩
    · exact ⟨file, found, ofJson?_variable (lay_isTable .empty file) named last (.inr reads) v⟩
  · intro o valid
    simp only [ofEnvironment_eq_ok_iff] at valid ⊢
    exact ofJson?_variable .empty named last valid v
  · intro o
    rw [TextOption.get_put, Option.some.injEq, respelt_eq_iff]

/-- A key of digits loses the zeros in front of it. -/
theorem access_key_without_zeros :
    load "settings.ini" (some "scope = s\naccess_key = 007\n") [] =
        .ok { scope := some "s", accessKey := some "007" } ∧
      load "settings.ini" (some "scope = s\naccess_key = 007\n")
          [("AZURE_REDIS_ACCESS_KEY", "007")] =
        .ok { scope := some "s", accessKey := some "7" } ∧
      ofEnvironment [("AZURE_REDIS_ACCESS_KEY", "007")] = .ok { accessKey := some "7" } ∧
      Altered "007" := by
  have word : isWord "007" = false := by cbv
  have whole : integer? "007" = some 7 := by decide
  have text : respelt "007" = "7" := by
    simp only [respelt, word, whole]
    rfl
  have spelt : TextOption.accessKey.variableName = "AZURE_REDIS_ACCESS_KEY" := by decide
  have named := TextOption.setting?_variableName .accessKey
  rw [spelt] at named
  have file : load "settings.ini" (some "scope = s\naccess_key = 007\n") [] =
      .ok { scope := some "s", accessKey := some "007" } := by cbv
  obtain ⟨laid, alone, kept⟩ :=
    @text_of_variable "AZURE_REDIS_ACCESS_KEY" [] [] .accessKey "007" named (List.forall_mem_nil _)
  rw [text] at laid alone kept
  refine ⟨file, laid _ _ _ (.inr file), alone {} (.inr rfl), ?_⟩
  by_contra same
  exact absurd ((kept {}).mpr same) (by decide)

end Variable

end Options
end TokenKeeper
