import TokenKeeper.Proofs.Acquisition.Named

/-!
# Offers to the store

A token that was fetched and found a username is offered to the store, at a time that the other
tasks decide. Whatever the order, the store has the earliest of the offered tokens that expire
last: it takes an offer exactly if that expires later than all before it. What it is offered is
what the identity service has issued, with the time that the clock has shown since.
-/

namespace TokenKeeper

variable {e : Engine} {m m' : Machine e} {trace : List Label} {l : Label} {past : List Exchange}
variable {t : Token}

/-- The token that a label offers to the store. -/
def Label.offers? : Label → Option Token
  | .did ⟨_, _, _, _, ⟨.offer t, _⟩⟩ => some t
  | _ => none

/-- The tokens that were offered to the store, in their order. -/
def offered (trace : List Label) : List Token := trace.filterMap Label.offers?

theorem offered_snoc (trace : List Label) (l : Label) :
    offered (trace ++ [l]) = offered trace ++ l.offers?.toList :=
  filterMap_snoc _ _ _

/-- A token is the earliest of those that expire last: all before it expire earlier, and none after
it expires later. -/
def LastToExpire (t : Token) (tokens : List Token) : Prop :=
  ∃ before after, tokens = before ++ t :: after ∧
    (∀ old ∈ before, old.expiresAt < t.expiresAt) ∧ ∀ new ∈ after, new.expiresAt ≤ t.expiresAt

namespace LastToExpire

variable {tokens : List Token} {new : Token}

theorem mem (h : LastToExpire t tokens) : t ∈ tokens := by
  obtain ⟨before, after, rfl, _⟩ := h
  exact List.mem_append_right _ List.mem_cons_self

theorem le (h : LastToExpire t tokens) : ∀ x ∈ tokens, x.expiresAt ≤ t.expiresAt := by
  obtain ⟨before, after, rfl, earlier, others⟩ := h
  intro x inside
  rcases List.mem_append.mp inside with inside | inside
  · exact Instant.le_of_lt (earlier x inside)
  · rcases List.mem_cons.mp inside with rfl | inside
    · exact Instant.le_refl _
    · exact others x inside

theorem of_later (later : ∀ old ∈ tokens, old.expiresAt < t.expiresAt) :
    LastToExpire t (tokens ++ [t]) :=
  ⟨tokens, [], rfl, later, fun _ inside => absurd inside List.not_mem_nil⟩

theorem snoc (h : LastToExpire t tokens) (bound : new.expiresAt ≤ t.expiresAt) :
    LastToExpire t (tokens ++ [new]) := by
  obtain ⟨before, after, rfl, earlier, others⟩ := h
  refine ⟨before, after ++ [new], by simp, earlier, fun x inside => ?_⟩
  rcases List.mem_append.mp inside with inside | inside
  · exact others x inside
  · rwa [List.mem_singleton.mp inside]

/-- A token that follows another one cannot expire later than that and no later as well. -/
theorem eq_of_cut {t' : Token} {between after after' : List Token}
    (cut : t :: after = between ++ t' :: after')
    (earlier : ∀ old ∈ between, old.expiresAt < t'.expiresAt)
    (others : ∀ new ∈ after, new.expiresAt ≤ t.expiresAt) : t = t' := by
  cases between with
  | nil => exact (List.cons.inj cut).1
  | cons first between =>
      obtain ⟨rfl, rfl⟩ := List.cons.inj cut
      have sooner := earlier t List.mem_cons_self
      exact absurd (others t' (by simp)) (Instant.not_le.mpr sooner)

theorem unique {t' : Token} (h : LastToExpire t tokens) (h' : LastToExpire t' tokens) :
    t = t' := by
  obtain ⟨before, after, rfl, earlier, others⟩ := h
  obtain ⟨before', after', same, earlier', others'⟩ := h'
  rcases List.append_eq_append_iff.mp same with ⟨between, rfl, cut⟩ | ⟨between, rfl, cut⟩
  · exact eq_of_cut cut (fun old inside => earlier' old (List.mem_append_right _ inside)) others
  · exact (eq_of_cut cut (fun old inside => earlier old (List.mem_append_right _ inside))
      others').symm

end LastToExpire

namespace TokenStore

/-- A store that was offered no token has none, and else it has the earliest of those that expire
last. -/
structure Has (s : TokenStore) (tokens : List Token) : Prop where
  nothing : s.current = none → tokens = []
  latest : ∀ t, s.current = some t → LastToExpire t tokens

namespace Has

variable {s : TokenStore} {tokens : List Token}

theorem empty : Has {} [] := ⟨fun _ => rfl, fun _ held => nomatch held⟩

theorem current_eq_some_iff (h : s.Has tokens) : s.current = some t ↔ LastToExpire t tokens := by
  refine ⟨h.latest t, fun last => ?_⟩
  cases held : s.current with
  | none => exact absurd (h.nothing held ▸ last.mem) List.not_mem_nil
  | some other => rw [(h.latest other held).unique last]

/-- The store takes exactly what expires later than all that it was offered. -/
theorem accepts_iff (h : s.Has tokens) :
    s.accepts t = true ↔ ∀ old ∈ tokens, old.expiresAt < t.expiresAt := by
  rw [accepts]
  cases held : s.current with
  | none => simp [h.nothing held]
  | some last =>
      have latest := h.latest last held
      constructor
      · intro later old inside
        exact Instant.lt_of_le_of_lt (latest.le old inside) (of_decide_eq_true later)
      · intro all
        exact decide_eq_true (all last latest.mem)

theorem offer (h : s.Has tokens) (t : Token) : (s.offer t).Has (tokens ++ [t]) := by
  cases accepted : s.accepts t with
  | true =>
      rw [offer_of_accepts accepted]
      constructor
      · intro none
        cases none
      · rintro _ ⟨⟩
        exact .of_later (h.accepts_iff.mp accepted)
  | false =>
      rw [offer_of_not_accepts accepted]
      -- A store without a token would have taken it.
      obtain ⟨old, held⟩ : ∃ old, s.current = some old := by
        cases held : s.current with
        | none => simp [accepts, held] at accepted
        | some old => exact ⟨old, rfl⟩
      simp only [accepts, held, decide_eq_false_iff_not] at accepted
      constructor
      · intro none
        cases held.symm.trans none
      · intro t' same
        obtain rfl := Option.some.inj (held.symm.trans same)
        exact (h.latest old held).snoc (Instant.not_lt.mp accepted)

/-- A store that was offered at least the same expiries expires no earlier. -/
theorem expiry_le {s' : TokenStore} {tokens' : List Token} (h : s.Has tokens)
    (h' : s'.Has tokens') (subset : tokens.map (·.expiresAt) ⊆ tokens'.map (·.expiresAt)) :
    s.expiry ≤ s'.expiry := by
  cases held : s.current with
  | none =>
      rw [expiry, held]
      exact Instant.min_le _
  | some t =>
      obtain ⟨other, inside, same⟩ := List.mem_map.mp
        (subset (List.mem_map_of_mem (h.latest t held).mem))
      cases held' : s'.current with
      | none => exact absurd (h'.nothing held' ▸ inside) List.not_mem_nil
      | some t' =>
          rw [expiry, expiry, held, held', Token.expiryOf, ← same]
          exact (h'.latest t' held').le other inside

end Has
end TokenStore

/-- A token was issued, and then the clock was asked for the time. -/
structure Fetched (past : List Exchange) (t : Token) : Prop where
  issued : Issued past ⟨t.secret, t.expiresAt⟩
  dated : past.getLast? = some ⟨.now, t.acquiredAt⟩

/-- Only tokens that were fetched are offered. -/
def FetchesFirst (past : List Exchange) : Request → Prop
  | .offer t => Fetched past t
  | _ => True

theorem FetchesFirst.aboutOffers : AboutOffers FetchesFirst where
  free := by
    intro past q other
    cases q with
    | offer => cases other
    | _ => trivial
  offers := by
    intro past t now issued _
    exact ⟨issued.mono (List.prefix_append _ _), by simp⟩

/-- A token that is offered was fetched before by the same task. -/
theorem Deed.Sound.fetched {d : Deed} {t : Token} (sound : d.Sound e)
    (offers : d.exchange.request = .offer t) : Fetched d.past t := by
  have own : d.member = none := Deed.member_eq_none sound (by rw [offers]; rfl)
  have fetches := sound.heeds own FetchesFirst.aboutOffers.heeds (by rw [offers]; exact id)
  rwa [offers] at fetches

theorem Label.installs?_of_offers?_eq_none (silent : l.offers? = none) : l.installs? = none := by
  cases installs : l.installs? with
  | none => rfl
  | some t =>
      unfold installs? at installs
      split at installs
      · cases silent
      · cases installs

namespace Step

/-- What is offered is offered to the store. -/
theorem current_of_offers (step : Step m l m') (offers : l.offers? = some t) :
    m'.shared.store.current = (m.shared.store.offer t).current := by
  unfold Label.offers? at offers
  split at offers
  · obtain rfl := Option.some.inj offers
    rw [step.shared]
    rfl
  · cases offers

/-- Nothing but an offer changes the token of the store. -/
theorem current_of_not_offers (step : Step m l m') (silent : l.offers? = none) :
    m'.shared.store.current = m.shared.store.current := by
  rw [step.current, Label.installs?_of_offers?_eq_none silent, Option.none_or]

end Step

namespace Run

/-- The store has the earliest of the tokens that it was offered in a run and that expire last. -/
theorem has_offered (run : Run ({} : Machine e) trace m) :
    m.shared.store.Has (offered trace) := by
  generalize start : ({} : Machine e) = first at run
  induction run with
  | refl =>
      subst start
      exact .empty
  | @snoc middle m' before l run step ih =>
      rw [offered_snoc]
      cases offers : l.offers? with
      | none =>
          have same := step.current_of_not_offers offers
          rw [Option.toList_none, List.append_nil]
          exact ⟨same ▸ ih.nothing, same ▸ ih.latest⟩
      | some t =>
          have same := step.current_of_offers offers
          have now := ih.offer t
          exact ⟨same ▸ now.nothing, same ▸ now.latest⟩

/-- What comes of the next offer. -/
theorem offer_taken {d : Deed} {taken : Bool} (run : Run ({} : Machine e) trace m)
    (step : Step m (.did d) m') (offers : d.exchange = ⟨.offer t, taken⟩) :
    (taken = true ↔ m.shared.store.current = none ∨
      ∀ old ∈ offered trace, old.expiresAt < t.expiresAt) ∧
      m'.shared.store.current = if taken then some t else m.shared.store.current := by
  have has := run.has_offered
  have answered : taken = m.shared.store.accepts t := step.answer offers rfl
  rw [answered]
  refine ⟨⟨fun accepted => .inr (has.accepts_iff.mp accepted), ?accepted⟩, ?current⟩
  case accepted =>
    rintro (empty | later)
    · apply has.accepts_iff.mpr
      rw [has.nothing empty]
      exact fun old inside => absurd inside List.not_mem_nil
    · exact has.accepts_iff.mpr later
  case current =>
    have request : d.exchange.request = .offer t := congrArg (·.request) offers
    rw [step.shared, request]
    change (m.shared.store.offer t).current = _
    unfold TokenStore.offer
    split <;> rfl

end Run
end TokenKeeper
