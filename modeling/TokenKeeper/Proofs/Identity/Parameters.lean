import TokenKeeper.Identity.ManagedIdentity
import TokenKeeper.Identity.ServicePrincipal
import TokenKeeper.Proofs.Identity.Guid
import TokenKeeper.Proofs.Url.Form

/-!
# Parameters of requests for tokens

What an identity is set up with arrives unchanged: the form of a service principal and the query
of a managed identity are read as exactly the pairs that belong to them. No setting can add, drop
or alter the pair of another one, whatever its characters are.
-/

namespace TokenKeeper.Identity

variable {lead ending cs : List Char} {limit : Nat}

/-! ## Resources -/

theorem eq_append_withoutLead (lead : List Char) (limit : Nat) (cs : List Char) :
    ∃ n, cs = (List.replicate n lead).flatten ++ withoutLead lead limit cs := by
  induction limit generalizing cs with
  | zero => exact ⟨0, rfl⟩
  | succ limit ih =>
      rw [withoutLead]
      split
      · rename_i found
        obtain ⟨rest, rfl⟩ := List.isPrefixOf_iff_prefix.mp found
        obtain ⟨n, same⟩ := ih rest
        refine ⟨n + 1, ?_⟩
        rw [List.replicate_succ, List.flatten_cons, List.append_assoc, List.drop_left, ← same]
      · exact ⟨0, rfl⟩

/-- With as many turns as there are characters nothing is left to take off. -/
theorem not_prefix_withoutLead (solid : lead ≠ []) (enough : cs.length ≤ limit) :
    ¬ lead <+: withoutLead lead limit cs := by
  induction limit generalizing cs with
  | zero =>
      rw [List.length_eq_zero_iff.mp (Nat.le_zero.mp enough)]
      exact fun found => solid (List.prefix_nil.mp found)
  | succ limit ih =>
      rw [withoutLead]
      split
      · -- Every turn makes the text shorter, so what is left has turns enough.
        have long := List.length_pos_iff.mpr solid
        refine ih ?_
        rw [List.length_drop]
        omega
      · rename_i missing
        exact mt List.isPrefixOf_iff_prefix.mpr missing

theorem eq_withoutEnding_append (ending cs : List Char) :
    ∃ n, cs = withoutEnding ending cs ++ (List.replicate n ending).flatten := by
  obtain ⟨n, same⟩ := eq_append_withoutLead ending.reverse cs.length cs.reverse
  refine ⟨n, List.reverse_inj.mp ?_⟩
  rw [List.reverse_append, List.reverse_flatten, List.map_replicate, List.reverse_replicate,
    withoutEnding, List.reverse_reverse]
  exact same

theorem not_suffix_withoutEnding (solid : ending ≠ []) : ¬ ending <:+ withoutEnding ending cs := by
  intro found
  have solid : ending.reverse ≠ [] := fun empty => solid (List.reverse_eq_nil_iff.mp empty)
  have enough : cs.reverse.length ≤ cs.length := Nat.le_of_eq List.length_reverse
  refine not_prefix_withoutLead solid enough ?_
  exact List.reverse_suffix.mp (by rwa [List.reverse_reverse])

/-- A resource is its scope without `/.default` at the end, however often that is there. -/
structure IsResourceOf (resource scope : String) : Prop where
  cut : ∃ n, scope.toList = resource.toList ++ (List.replicate n "/.default".toList).flatten
  bare : ¬ "/.default".toList <:+ resource.toList

theorem toList_resourceOf (scope : String) :
    (resourceOf scope).toList = withoutEnding "/.default".toList scope.toList :=
  String.toList_ofList

theorem isResourceOf_resourceOf (scope : String) : IsResourceOf (resourceOf scope) scope where
  cut := by
    rw [toList_resourceOf]
    exact eq_withoutEnding_append _ _
  bare := by
    rw [toList_resourceOf]
    exact not_suffix_withoutEnding (by decide)

/-! ## Requests -/

namespace HttpRequest

/-- The pairs of the form that a request posts. -/
def formPairs? (r : HttpRequest) : Option (List (String × String)) :=
  r.form.bind fun body => Url.Form.read? body.toList

end HttpRequest

/-- A request of a service principal posts its pairs, and leaves its address as it is. -/
theorem ServicePrincipal.map_request (p : ServicePrincipal) (s : Surroundings) :
    (p.request s).map (fun r => (r.url, r.formPairs?)) =
      (p.parameters s.now s.nonce).bind fun pairs =>
        (target p.tokenUrl).map fun url => (url, some pairs) := by
  cases made : p.parameters s.now s.nonce with
  | error e => simp only [request, made, bind, Except.bind, Except.map]
  | ok pairs =>
      cases aimed : target p.tokenUrl with
      | error e => simp only [request, made, aimed, bind, Except.bind, Except.map]
      | ok url =>
          simp only [request, made, aimed, bind, Except.bind, Except.map, pure, Except.pure,
            HttpRequest.formPairs?, Option.bind_some, Url.Form.read?_ofList_render]

theorem ServicePrincipal.map_request_of_secret {client tokenUrl scope secret : String}
    (s : Surroundings) :
    ((⟨client, tokenUrl, scope, .secret secret⟩ : ServicePrincipal).request s).map
        (fun r => (r.url, r.formPairs?)) =
      (target tokenUrl).map fun url => (url, some
        [("grant_type", "client_credentials"), ("client_id", client), ("scope", scope),
          ("client_secret", secret)]) := by
  rw [map_request]
  simp only [parameters, bind, Except.bind, pure, Except.pure, List.cons_append, List.nil_append]

/-- With a certificate the pairs of a request wait for the statement to be signed. -/
theorem ServicePrincipal.map_request_of_signer {client tokenUrl scope : String} {signer : Signer}
    (s : Surroundings) :
    ((⟨client, tokenUrl, scope, .signer signer⟩ : ServicePrincipal).request s).map
        (fun r => (r.url, r.formPairs?)) =
      (signer.assertion client tokenUrl s.now s.nonce).bind fun assertion =>
        (target tokenUrl).map fun url => (url, some
          [("grant_type", "client_credentials"), ("client_id", client), ("scope", scope),
            ("client_assertion_type", "urn:ietf:params:oauth:client-assertion-type:jwt-bearer"),
            ("client_assertion", assertion)]) := by
  rw [map_request]
  cases made : signer.assertion client tokenUrl s.now s.nonce with
  | error e => simp only [parameters, made, bind, Except.bind]
  | ok assertion =>
      simp only [parameters, made, bind, Except.bind, pure, Except.pure, List.cons_append,
        List.nil_append]

theorem ManagedIdentityId.parameter_ofClientId (id : Option String) :
    (ofClientId id).parameter =
      (id.map fun id => (if isGuid id then "client_id" else "msi_res_id", id)).toList := by
  cases id with
  | none => rfl
  | some id =>
      simp only [ofClientId, Option.map_some, Option.toList_some]
      split <;> rfl

/-- To an address without a query nothing but the pairs is added. -/
theorem addPairs_of_no_query {u : Url} (bare : u.query.getD "" = "")
    (pairs : List (String × String)) :
    u.addPairs pairs = { u with query := some (String.ofList (Url.Form.render pairs)) } := by
  cases query : u.query with
  | none => simp only [Url.addPairs, query]
  | some q =>
      rw [query] at bare
      obtain rfl : q = "" := bare
      simp [Url.addPairs, query]

/-- A managed identity asks its endpoint with its pairs as the whole query. -/
theorem ManagedIdentity.request_of_no_query {m : ManagedIdentity} {u : Url}
    (aimed : target m.endpoint = .ok u) (bare : u.query.getD "" = "") :
    ∃ query, m.request =
        .ok { method := "GET", url := { u with query := some query }, metadata := true } ∧
      '#' ∉ query.toList ∧ Url.Form.read? query.toList = some m.parameters := by
  refine ⟨String.ofList (Url.Form.render m.parameters), ?_, ?_, ?_⟩
  · rw [request, aimed, Except.map, addPairs_of_no_query bare]
  · rw [String.toList_ofList]
    exact Url.Form.hash_not_mem_render _
  · exact Url.Form.read?_ofList_render _

/-- Requests for tokens carry exactly what they are set up with. The form of a service principal
is read as its grant, its client id, its scope and its secret, or the statement that it signs; the
query of a managed identity as the version of the interface, the resource of the scope and, where
one is assigned, its id, which goes for that of a client if it has one of the forms of a unique
identifier. -/
theorem parameters_survive_encoding :
    (∀ tenant client secret scope authority : String, ∃ p,
      ServicePrincipal.create tenant client (.secret secret) scope authority = .ok p ∧
      ∀ s, (p.request s).map (fun r => (r.url, r.formPairs?)) =
        (target p.tokenUrl).map fun url => (url, some
          [("grant_type", "client_credentials"), ("client_id", client), ("scope", scope),
            ("client_secret", secret)])) ∧
    (∀ tenant client certificate scope authority, ∃ principal : Signer → ServicePrincipal,
      ServicePrincipal.create tenant client (.certificate certificate) scope authority =
        (Signer.ofCertificate certificate).map principal ∧
      ∀ signer s, ((principal signer).request s).map (fun r => (r.url, r.formPairs?)) =
        (signer.assertion client (principal signer).tokenUrl s.now s.nonce).bind fun assertion =>
          (target (principal signer).tokenUrl).map fun url => (url, some
            [("grant_type", "client_credentials"), ("client_id", client), ("scope", scope),
              ("client_assertion_type", "urn:ietf:params:oauth:client-assertion-type:jwt-bearer"),
              ("client_assertion", assertion)])) ∧
    (∀ (id : Option String) (endpoint scope : String) (u : Url),
      target endpoint = .ok u → u.query.getD "" = "" →
      IsResourceOf (resourceOf scope) scope ∧
      ∃ query, ManagedIdentity.request ⟨.ofClientId id, endpoint, resourceOf scope⟩ =
          .ok { method := "GET", url := { u with query := some query }, metadata := true } ∧
        '#' ∉ query.toList ∧
        Url.Form.read? query.toList = some
          ([("api-version", "2018-02-01"), ("resource", resourceOf scope)] ++
            (id.map fun id => (if isGuid id then "client_id" else "msi_res_id", id)).toList)) ∧
    ∀ id : String, isGuid id = true ↔ IsIdentifier id.toList := by
  refine ⟨?_, ?_, ?_, fun id => isGuid_iff⟩
  · intro tenant client secret scope authority
    exact ⟨⟨client, withoutSlashes authority ++ "/" ++ tenant ++ "/oauth2/v2.0/token", scope,
      .secret secret⟩, rfl, ServicePrincipal.map_request_of_secret⟩
  · intro tenant client certificate scope authority
    refine ⟨fun signer => ⟨client, withoutSlashes authority ++ "/" ++ tenant ++
      "/oauth2/v2.0/token", scope, .signer signer⟩, ?_,
      fun signer => ServicePrincipal.map_request_of_signer⟩
    rw [ServicePrincipal.create]
    cases Signer.ofCertificate certificate <;> rfl
  · intro id endpoint scope u aimed bare
    refine ⟨isResourceOf_resourceOf scope, ?_⟩
    rw [← ManagedIdentityId.parameter_ofClientId]
    exact ManagedIdentity.request_of_no_query aimed bare

/-- An assigned id with separators in it stays one value, whether it is taken for the id of a
resource or of a client, and no ending is left on the resource that is asked for. -/
theorem parameters_of_separators :
    ∃ u, target "http://h" = .ok u ∧ u.query.getD "" = "" ∧
      (∃ query, ManagedIdentity.request ⟨.ofClientId (some "a&b=c %+é"), "http://h",
            resourceOf "r/.default/.default"⟩ =
          .ok { method := "GET", url := { u with query := some query }, metadata := true } ∧
        Url.Form.read? query.toList = some
          [("api-version", "2018-02-01"), ("resource", "r"), ("msi_res_id", "a&b=c %+é")]) ∧
      ∃ query, ManagedIdentity.request
            ⟨.ofClientId (some "\x7b1b4d7f0e-9a5c-4c1f-8B7E-2f3a4b5c6d7e\x7d"), "http://h",
              resourceOf "r"⟩ =
          .ok { method := "GET", url := { u with query := some query }, metadata := true } ∧
        Url.Form.read? query.toList = some
          [("api-version", "2018-02-01"), ("resource", "r"),
            ("client_id", "\x7b1b4d7f0e-9a5c-4c1f-8B7E-2f3a4b5c6d7e\x7d")] := by
  have aimed : ∃ u, target "http://h" = .ok u ∧ u.query.getD "" = "" := ⟨_, rfl, rfl⟩
  obtain ⟨u, aimed, bare⟩ := aimed
  obtain ⟨-, query, made, -, read⟩ := parameters_survive_encoding.2.2.1 (some "a&b=c %+é")
    "http://h" "r/.default/.default" u aimed bare
  obtain ⟨-, query', made', -, read'⟩ := parameters_survive_encoding.2.2.1
    (some "\x7b1b4d7f0e-9a5c-4c1f-8B7E-2f3a4b5c6d7e\x7d") "http://h" "r" u aimed bare
  have known : isGuid "\x7b1b4d7f0e-9a5c-4c1f-8B7E-2f3a4b5c6d7e\x7d" = true := by decide +kernel
  refine ⟨u, aimed, bare, ⟨query, made, read⟩, query', made', ?_⟩
  rw [read', Option.map_some, known]
  rfl

end TokenKeeper.Identity
