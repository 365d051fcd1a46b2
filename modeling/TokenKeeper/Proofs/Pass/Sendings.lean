import TokenKeeper.Proofs.Call.Telling
import TokenKeeper.Proofs.Machine.Members
import TokenKeeper.Proofs.Pass.Governed

/-!
# What the endpoints are sent

The commands that an endpoint gets follow from its answers alone: one after another, until an
answer is no refusal or the retries are used up. Which endpoints are served follows from the list of
the connection and from what each says about being connected, and they are served once. A pass
starts one worker for each connection.
-/

namespace TokenKeeper

open Program (Meets)

/-- The commands among some exchanges. -/
def sent (past : List Exchange) : List Exchange := past.filter fun x => x.request.isAuth

@[simp] theorem sent_snoc (past : List Exchange) (x : Exchange) :
    sent (past ++ [x]) = sent past ++ if x.request.isAuth then [x] else [] := by
  rw [sent, List.filter_append, List.filter_singleton]
  cases x.request.isAuth <;> rfl

/-- A command that panicked. -/
def Exchange.panicked : Exchange → Bool
  | ⟨.auth _ _ _, .error _⟩ => true
  | _ => false

namespace EndpointJob

variable (job : EndpointJob)

/-- A command with its answer. -/
def command (a : Except Panic AuthReply) : Exchange :=
  ⟨.auth job.endpoint job.username job.token.secret, a⟩

/-- The commands that an endpoint is sent from one on, with its answers. -/
def commands (reply : Nat → Except Panic AuthReply) : (retries attempt : Nat) → List Exchange
  | 0, attempt => [job.command (reply attempt)]
  | retries + 1, attempt =>
    job.command (reply attempt) ::
      if refuses (reply attempt) then commands reply retries (attempt + 1) else []

/-- An endpoint that comes out with a panic has panicked at a command. -/
theorem panicked_of_settle {reply : Nat → Except Panic AuthReply} {retries attempt : Nat}
    {p : Panic} (panicked : settle reply retries attempt = .error p) :
    ∃ x ∈ job.commands reply retries attempt, x.panicked = true := by
  induction retries generalizing attempt with
  | zero =>
      refine ⟨_, List.mem_singleton_self _, ?_⟩
      rw [show reply attempt = .error p from panicked]
      rfl
  | succ retries ih =>
      rw [settle] at panicked
      rw [commands]
      split at panicked
      · rename_i refused
        obtain ⟨x, inside, last⟩ := ih panicked
        rw [if_pos refused]
        exact ⟨x, List.mem_cons_of_mem _ inside, last⟩
      · exact ⟨_, List.mem_cons_self, by rw [panicked]; rfl⟩

end EndpointJob

namespace Conduct

variable (c : Conduct) (job : ConnectionJob)

/-- The connected endpoints, as they are served. -/
def crew : List EndpointJob :=
  match c.servers with
  | .ok (.ok endpoints) => (c.present endpoints 0).map fun x => ⟨x.1, job.token, job.username⟩
  | _ => []

/-- The endpoints are listed, and each says whether it is connected. -/
def Musters : Prop := c.lists = true ∧ ∀ k < c.listed, panics (c.connected k) = false

/-- Endpoints are served only if they muster, these and no others, and only once. -/
def Gathers (past : List Exchange) (q : Request) : Prop :=
  q.isTogether = true →
    q = .together (c.crew job) ∧ c.Musters ∧ ∀ x ∈ past, x.request.isTogether = false

/-- The commands that the endpoint in a place is sent. -/
def commands (retries j : Nat) : List Exchange :=
  match (c.crew job)[j]?, c.places[j]? with
  | some endpoint, some k => endpoint.commands (c.replies k) retries 0
  | _, _ => []

variable {c job}

theorem gathers_of_alone {past : List Exchange} {q : Request} (alone : q.isTogether = false) :
    c.Gathers job past q := by
  intro together
  rw [alone] at together
  cases together

theorem crew_of_listed {endpoints : List Endpoint} (servers : c.servers = .ok (.ok endpoints)) :
    c.crew job = (c.present endpoints 0).map fun x => ⟨x.1, job.token, job.username⟩ := by
  rw [crew, servers]

theorem places_of_listed {endpoints : List Endpoint} (servers : c.servers = .ok (.ok endpoints)) :
    c.places = (c.present endpoints 0).map (·.2) := by
  rw [places, listed, servers, map_present]

theorem length_crew : (c.crew job).length = c.places.length := by
  match servers : c.servers with
  | .ok (.ok endpoints) =>
      rw [crew_of_listed servers, places_of_listed servers, List.length_map, List.length_map]
  | .ok (.error error) =>
      rw [crew, places, listed, servers]
      rfl
  | .error p =>
      rw [crew, places, listed, servers]
      rfl

/-- The commands for an endpoint that is served. -/
theorem commands_of_crew {retries j : Nat} {endpoint : EndpointJob}
    (serves : (c.crew job)[j]? = some endpoint) :
    ∃ k, c.places[j]? = some k ∧
      c.commands job retries j = endpoint.commands (c.replies k) retries 0 := by
  have low := (List.getElem?_eq_some_iff.mp serves).1
  rw [length_crew] at low
  have place := List.getElem?_eq_getElem low
  exact ⟨_, place, by rw [commands, serves, place]⟩

theorem commands_of_none {retries j : Nat} (absent : (c.crew job)[j]? = none) :
    c.commands job retries j = [] := by
  rw [commands, absent]

theorem servers_of_lists (listed : c.lists = true) :
    ∃ endpoints, c.servers = .ok (.ok endpoints) := by
  unfold lists at listed
  split at listed
  · exact ⟨_, ‹_›⟩
  · cases listed

/-- Nobody is served where nothing is listed. -/
theorem crew_of_unlisted (unlisted : c.lists = false) : c.crew job = [] := by
  unfold crew
  split
  · rename_i same
    rw [lists, same] at unlisted
    cases unlisted
  · rfl

/-- Without a panic all listed endpoints muster. -/
theorem musters_of_lists {retries : Nat} (calm : ¬ c.Panics retries) (lists : c.lists = true) :
    c.Musters := by
  refine ⟨lists, fun k low => ?_⟩
  by_contra loud
  exact calm (.inr (.inl ⟨k, low, by simpa using loud⟩))

namespace Explains

variable {retries : Nat} {past : List Exchange}

/-- A panic of a member is one of the conduct. -/
theorem panics {p : Panic} (said : c.Explains retries past ⟨.together (c.crew job), .error p⟩) :
    c.Panics retries := by
  obtain ⟨j, low, same⟩ := said.panic _ _ rfl
  rw [length_crew] at low
  refine .inr (.inr ⟨_, List.getElem_mem low, ?_⟩)
  rw [same _ (List.getElem?_eq_getElem low)]
  rfl

/-- If every member has a reply, then no part of the work panics. -/
theorem calm {replies : List AuthReply}
    (said : c.Explains retries past ⟨.together (c.crew job), .ok replies⟩) (musters : c.Musters) :
    ¬ c.Panics retries := by
  obtain ⟨count, each⟩ := said.replies _ _ rfl
  rintro (panicked | ⟨k, low, panicked⟩ | ⟨k, inside, panicked⟩)
  · obtain ⟨endpoints, same⟩ := Conduct.servers_of_lists musters.1
    rw [same] at panicked
    cases panicked
  · rw [musters.2 k low] at panicked
    cases panicked
  · obtain ⟨j, place⟩ := List.getElem?_of_mem inside
    have low := (List.getElem?_eq_some_iff.mp place).1
    rw [← length_crew, ← count] at low
    rw [each j k _ place (List.getElem?_eq_getElem low)] at panicked
    cases panicked

end Explains
end Conduct

namespace Engine

/-- An endpoint is sent its commands in order, and all of them by its end. -/
theorem serveEndpoint_sends (reply : Nat → Except Panic AuthReply) (job : EndpointJob)
    (retries : Nat) (past : List Exchange) :
    (serveEndpoint job retries).Meets (EndpointAnswers reply)
      (fun later _ =>
        sent later <+: sent past ++ job.commands reply retries (asked Request.isAuth past))
      (fun later _ =>
        sent later = sent past ++ job.commands reply retries (asked Request.isAuth past)) past := by
  have first (past : List Exchange) (a : Except Panic AuthReply) :
      sent (past ++ [job.command a]) = sent past ++ [job.command a] := sent_snoc _ _
  have quiet (past : List Exchange) (event : Event) :
      sent (past ++ [⟨.notify event, ()⟩]) = sent past := by simp [Request.isAuth]
  induction retries generalizing past with
  | zero =>
      rw [serveEndpoint]
      refine ⟨List.prefix_append _ _, fun a said => ?_⟩
      obtain rfl := said _ _ _ a rfl
      rw [EndpointJob.commands]
      have now := first past (reply (asked Request.isAuth past))
      generalize reply (asked Request.isAuth past) = answer at now ⊢
      cases answer with
      | error p => exact now
      | ok reply =>
        cases reply with
        | ok _ => exact ⟨now ▸ List.prefix_rfl, fun _ _ => (quiet _ _).trans now⟩
        | error error =>
            cases error with
            | disposed => exact now
            | _ => exact ⟨now ▸ List.prefix_rfl, fun _ _ => (quiet _ _).trans now⟩
  | succ retries ih =>
      rw [serveEndpoint]
      refine ⟨List.prefix_append _ _, fun a said => ?_⟩
      obtain rfl := said _ _ _ a rfl
      rw [EndpointJob.commands]
      have now := first past (reply (asked Request.isAuth past))
      have onward := ih (past ++ [job.command (reply (asked Request.isAuth past))])
      rw [now, asked_snoc, if_pos (show (job.command _).request.isAuth = true from rfl),
        List.append_assoc] at onward
      generalize reply (asked Request.isAuth past) = answer at now onward ⊢
      cases answer with
      | error p => exact now
      | ok reply =>
        cases reply with
        | ok _ => exact ⟨now ▸ List.prefix_rfl, fun _ _ => (quiet _ _).trans now⟩
        | error error =>
            cases error with
            | disposed => exact now
            | _ => exact onward

theorem connected_looks (endpoints : List Endpoint) :
    (connected endpoints).Uses (·.isLook = true) := by
  induction endpoints with
  | nil => trivial
  | cons endpoint endpoints ih =>
      refine ⟨rfl, fun a => (Program.uses_ofAnswer a).bind fun here => ?_⟩
      exact ih.bind fun _ => Program.uses_pure _

theorem record_alone (job : ConnectionJob) (replies : List AuthReply) :
    (record job replies).Uses (·.isTogether = false) := by
  unfold record
  split
  · exact ⟨rfl, fun _ => trivial⟩
  · split
    · exact ⟨rfl, fun _ => trivial⟩
    · trivial

/-- Once its members are known, a worker serves them and no others after that. -/
theorem together_gathers (c : Conduct) (retries : Nat) (job : ConnectionJob) {past : List Exchange}
    (musters : c.Musters) (alone : ∀ x ∈ past, x.request.isTogether = false) :
    ((Program.request (.together (c.crew job))).bind fun r =>
      (Program.ofAnswer r).bind (record job)).Meets (c.Explains retries) (c.Gathers job)
        (fun past _ => c.Musters → ∃ r, (⟨.together (c.crew job), r⟩ : Exchange) ∈ past) past := by
  refine ⟨fun _ => ⟨rfl, musters, alone⟩, fun r _ => ?_⟩
  have gathered : (⟨.together (c.crew job), r⟩ : Exchange) ∈
      past ++ [⟨.together (c.crew job), r⟩] := List.mem_append_right _ List.mem_cons_self
  cases r with
  | error p => exact fun _ => ⟨_, gathered⟩
  | ok replies =>
      have recorded : (record job replies).Meets (c.Explains retries) (c.Gathers job)
          (fun _ _ => True) (past ++ [⟨.together (c.crew job), .ok replies⟩]) := by
        refine (record_alone job replies).meets (fun _ q other asked => ?_) fun _ _ => trivial
        rw [other] at asked
        cases asked
      exact recorded.extends.mono (fun _ _ allowed => allowed)
        fun past r ended _ => ⟨_, ended.1.subset gathered⟩

/-- The endpoints are served once, if they are listed and asked without a panic. -/
theorem serveConnection_gathers (c : Conduct) (retries : Nat) (job : ConnectionJob) :
    (serveConnection job).Meets (c.Explains retries) (c.Gathers job)
      (fun past _ => c.Musters → ∃ r, (⟨.together (c.crew job), r⟩ : Exchange) ∈ past) [] := by
  rw [serveConnection]
  refine ⟨Conduct.gathers_of_alone rfl, fun a said => ?_⟩
  obtain rfl := said.servers _ _ rfl
  have unlisted {a : Except Panic (Except ReauthenticationError (List Endpoint))}
      (servers : c.servers = a) (other : ∀ endpoints, a ≠ .ok (.ok endpoints)) : ¬ c.Musters := by
    rintro ⟨listed, _⟩
    obtain ⟨endpoints, same⟩ := Conduct.servers_of_lists listed
    exact other endpoints (servers.symm.trans same)
  cases servers : c.servers with
  | error p => exact fun musters => absurd musters (unlisted servers (by simp))
  | ok answer =>
      cases answer with
      | error error =>
          have absent := unlisted servers (by simp)
          cases error with
          | disposed =>
              exact ⟨Conduct.gathers_of_alone rfl, fun _ _ musters => absurd musters absent⟩
          | _ => exact ⟨Conduct.gathers_of_alone rfl, fun _ _ musters => absurd musters absent⟩
      | ok endpoints =>
          have listed : c.listed = endpoints.length := by rw [Conduct.listed, servers]
          show ((connected endpoints).bind fun l =>
            (Program.request (.together (l.map fun e => ⟨e, job.token, job.username⟩))).bind
              fun r => (Program.ofAnswer r).bind (record job)).Meets _ _ _ _
          have looks : (connected endpoints).Meets (c.Explains retries) (c.Gathers job) _ _ :=
            connected_meets endpoints [⟨.endpoints job.connection, .ok (.ok endpoints)⟩]
              (fun past endpoint a said => said.connected endpoint a rfl)
              fun _ _ => Conduct.gathers_of_alone rfl
          refine Meets.bind ((looks.and ((connected_looks endpoints).adds _)).mono
            (fun _ _ allowed => allowed.1) ?_)
          rintro past r ⟨ended, since⟩
          cases r with
          | error p =>
              obtain ⟨k, low, panicked⟩ := ended
              rintro ⟨_, calm⟩
              have here : panics (c.connected (0 + k)) = true := panicked
              rw [Nat.zero_add, calm k (listed ▸ low)] at here
              cases here
          | ok l =>
              obtain ⟨same, calm⟩ := ended
              have isCrew : (l.map fun e => ⟨e, job.token, job.username⟩) = c.crew job := by
                rw [show l = (c.present endpoints 0).map (·.1) from same,
                  Conduct.crew_of_listed servers, List.map_map]
                rfl
              have musters : c.Musters := by
                refine ⟨by rw [Conduct.lists, servers], fun k low => ?_⟩
                have here : panics (c.connected (0 + k)) = false := calm k (listed ▸ low)
                rwa [Nat.zero_add] at here
              show ((Program.request (.together (l.map fun e => ⟨e, job.token, job.username⟩))).bind
                fun r => (Program.ofAnswer r).bind (record job)).Meets _ _ _ _
              rw [isCrew]
              refine together_gathers c retries job musters fun x inside => ?_
              rcases since.mem inside with first | look
              · rw [List.mem_singleton.mp first]
                rfl
              · cases request : x.request with
                | isConnected => rfl
                | _ => rw [request] at look; cases look

/-- The connections that a pass is told of are different ones. -/
def FindsDistinct (_ : List Exchange) (x : Exchange) : Prop :=
  ∀ expiry found, x = ⟨.stale expiry, found⟩ → found.Pairwise fun a b : Tracked => a.id ≠ b.id

/-- No connection gets a second worker. -/
def StartsOnce (past : List Exchange) : Request → Prop
  | .spawnWorker job =>
    ∀ job' w, (⟨.spawnWorker job', w⟩ : Exchange) ∈ past → job'.id ≠ job.id
  | _ => True

theorem startWorkers_once (token : Token) (username : String) (found : List Tracked)
    (past : List Exchange) (distinct : found.Pairwise fun a b => a.id ≠ b.id)
    (new : ∀ x ∈ found, ∀ job w, (⟨.spawnWorker job, w⟩ : Exchange) ∈ past → job.id ≠ x.id) :
    (startWorkers token username found).Meets FindsDistinct StartsOnce (fun _ _ => True) past := by
  induction found generalizing past with
  | nil => trivial
  | cons x found ih =>
      obtain ⟨first, rest⟩ := List.pairwise_cons.mp distinct
      refine ⟨?_, fun w _ => ?_⟩
      · exact fun job' w inside => new x List.mem_cons_self job' w inside
      show ((startWorkers token username found).bind fun others =>
        .pure ((x.connection.client, w) :: others)).Meets _ _ _ _
      refine Meets.bind ((ih _ rest fun y later job w' inside => ?_).mono
        (fun _ _ allowed => allowed) fun _ r _ => by cases r <;> trivial)
      rcases List.mem_append.mp inside with inside | inside
      · exact new y (List.mem_cons_of_mem x later) job w' inside
      · cases List.mem_singleton.mp inside
        exact first y later

theorem reauthenticateAll_once :
    reauthenticateAll.Meets FindsDistinct StartsOnce (fun _ _ => True) [] := by
  refine ⟨trivial, fun seen _ => ⟨trivial, fun name _ => ?_⟩⟩
  cases seen with
  | none => trivial
  | some token =>
      cases name with
      | none => trivial
      | some username =>
          refine ⟨trivial, fun found told => ?_⟩
          show ((startWorkers token username found).bind fun workers =>
            joinWorkers { stale := found.length } workers).Meets _ _ _ _
          refine Meets.bind ((startWorkers_once token username found _ (told _ _ rfl)
            fun x _ job w inside => ?_).mono (fun _ _ allowed => allowed) fun past r _ => ?_)
          · simp at inside
          · cases r with
            | error p => trivial
            | ok workers =>
                refine (joinWorkers_uses _ workers).meets (fun past q closing => ?_)
                  fun _ _ => trivial
                cases q with
                | spawnWorker => exact closing.elim
                | _ => trivial

end Engine

theorem Call.reauthenticate_once {e : Engine} : (Call.reauthenticate.program e).Meets
    Engine.FindsDistinct Engine.StartsOnce (fun _ _ => True) [] :=
  Meets.bind (Engine.reauthenticateAll_once.mono (fun _ _ allowed => allowed)
    fun _ r _ => by cases r <;> trivial)

theorem ConnectionJob.program_gathers (c : Conduct) (retries : Nat) (job : ConnectionJob) :
    job.program.Meets (c.Explains retries) (c.Gathers job)
      (fun past _ => c.Musters → ∃ r, (⟨.together (c.crew job), r⟩ : Exchange) ∈ past) [] :=
  Meets.bind ((Engine.serveConnection_gathers c retries job).mono (fun _ _ allowed => allowed)
    fun _ r ended => by cases r <;> exact ended)

end TokenKeeper
