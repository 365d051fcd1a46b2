import TokenKeeper.Proofs.Machine.Run

/-!
# The store along a run

The current token changes only when an offer is accepted, and every accepted token expires later
than the one before it. So the expiry of the store never goes back, and it stays where it is
exactly as long as no offer is accepted.
-/

namespace TokenKeeper

/-- The token that a label puts into the store. -/
def Label.installs? : Label → Option Token
  | .did ⟨_, _, _, _, ⟨.offer t, true⟩⟩ => some t
  | _ => none

/-- The tokens that were put into the store, in their order. -/
def installed (trace : List Label) : List Token := trace.filterMap Label.installs?

theorem installed_snoc (trace : List Label) (l : Label) :
    installed (trace ++ [l]) = installed trace ++ l.installs?.toList :=
  filterMap_snoc _ _ _

/-- Only an offer changes the token of the store. -/
theorem Shared.current_after (s : Shared) (alive : Connection → Bool) {q : Request}
    (other : ∀ t, q ≠ .offer t) : (s.after alive q).store.current = s.store.current := by
  cases q with
  | offer t => exact absurd rfl (other t)
  | setUsernameIfAbsent name => exact TokenStore.current_setUsernameIfAbsent _ _
  | _ => rfl

variable {e : Engine} {m m' : Machine e} {trace : List Label} {l : Label}

namespace Step

/-- After a step the token is the one that it put into the store, or else the one before. -/
theorem current (step : Step m l m') :
    m'.shared.store.current = l.installs?.or m.shared.store.current := by
  cases l with
  | began c => rw [step.shared_of_began]; rfl
  | dropped c => rw [step.shared_of_dropped]; rfl
  | did d =>
      rw [step.shared]
      obtain ⟨i, duty, member, past, ⟨q, a⟩⟩ := d
      by_cases offers : ∃ t, q = .offer t
      · obtain ⟨t, rfl⟩ := offers
        have answered : a = m.shared.store.accepts t := step.answer rfl rfl
        change (m.shared.store.offer t).current = _
        cases taken : m.shared.store.accepts t with
        | true =>
            obtain rfl : a = true := answered.trans taken
            rw [TokenStore.offer_of_accepts taken]
            rfl
        | false =>
            obtain rfl : a = false := answered.trans taken
            rw [TokenStore.offer_of_not_accepts taken]
            rfl
      · have other : ∀ t, q ≠ .offer t := fun t same => offers ⟨t, same⟩
        rw [Shared.current_after _ _ other]
        cases q with
        | offer t => exact absurd rfl (other t)
        | _ => rfl

/-- An accepted token expires later than the one before it. -/
theorem later_of_installs {old new : Token} (step : Step m l m')
    (installs : l.installs? = some new) (held : m.shared.store.current = some old) :
    old.expiresAt < new.expiresAt := by
  unfold Label.installs? at installs
  split at installs
  · obtain rfl := Option.some.inj installs
    have accepted : true = m.shared.store.accepts _ := step.answer rfl rfl
    simp only [TokenStore.accepts, held] at accepted
    exact of_decide_eq_true accepted.symm
  · cases installs

theorem expiry_le (step : Step m l m') : m.shared.store.expiry ≤ m'.shared.store.expiry := by
  rw [TokenStore.expiry, TokenStore.expiry, step.current]
  cases installs : l.installs? with
  | none => exact Instant.le_refl _
  | some new =>
      cases held : m.shared.store.current with
      | none => exact Instant.min_le _
      | some old => exact Instant.le_of_lt (step.later_of_installs installs held)

end Step

namespace Run

/-- The expiry of the store never goes back. -/
theorem expiry_le (run : Run m trace m') :
    m.shared.store.expiry ≤ m'.shared.store.expiry := by
  induction run with
  | refl => exact Instant.le_refl _
  | snoc _ step ih => exact Instant.le_trans ih step.expiry_le

/-- After a run the token is the last one that was put into the store, or else the one before. -/
theorem current (run : Run m trace m') :
    m'.shared.store.current = (installed trace).getLast?.or m.shared.store.current := by
  induction run with
  | refl => rfl
  | @snoc _ _ before l _ step ih =>
      rw [step.current, ih, installed_snoc, List.getLast?_append]
      cases l.installs? <;> rfl

/-- A store that has a token has one ever after. -/
theorem current_isSome (run : Run m trace m') (held : m.shared.store.current.isSome = true) :
    m'.shared.store.current.isSome = true := by
  rw [run.current, Option.isSome_or, held, Bool.or_true]

/-- While a token is held, the expiry stays where it is exactly as long as no token is put into
the store. -/
theorem expiry_le_iff {old : Token} (run : Run m trace m')
    (held : m.shared.store.current = some old) :
    m'.shared.store.expiry ≤ old.expiresAt ↔ installed trace = [] := by
  constructor
  · intro stayed
    induction run with
    | refl => rfl
    | @snoc middle _ before l run step ih =>
        have reached : middle.shared.store.expiry ≤ old.expiresAt :=
          Instant.le_trans step.expiry_le stayed
        have none_before := ih reached
        rw [installed_snoc, none_before]
        cases installs : l.installs? with
        | none => rfl
        | some new =>
            have still : middle.shared.store.current = some old := by
              rw [run.current, none_before, held]
              rfl
            have later := step.later_of_installs installs still
            have now := step.current
            rw [installs] at now
            rw [TokenStore.expiry, now] at stayed
            exact absurd stayed (Instant.not_le.mpr later)
  · intro untouched
    rw [TokenStore.expiry, run.current, untouched, held]
    exact Instant.le_refl _

/-- The tokens of the store in their order: the one before a run and those put there in it. The
last of them is the current one. -/
theorem current_getLast? (run : Run m trace m') :
    m'.shared.store.current = (m.shared.store.current.toList ++ installed trace).getLast? := by
  rw [run.current, List.getLast?_append]
  cases m.shared.store.current <;> rfl

/-- Each token of the store expires later than all before it. -/
theorem increasing (run : Run m trace m') :
    (m.shared.store.current.toList ++ installed trace).Pairwise
      fun old new => old.expiresAt < new.expiresAt := by
  induction run with
  | refl => cases m.shared.store.current <;> simp [installed]
  | @snoc middle _ before l run step ih =>
      rw [installed_snoc, ← List.append_assoc]
      cases installs : l.installs? with
      | none => simpa using ih
      | some new =>
          refine List.pairwise_append.mpr ⟨ih, List.pairwise_singleton _ _, ?_⟩
          intro old inside new' same
          obtain rfl := List.mem_singleton.mp same
          -- The new token is later than the last one, and the last one is no earlier than any.
          obtain ⟨front, last, all⟩ := List.eq_nil_or_concat _ |>.resolve_left
            (List.ne_nil_of_mem inside)
          have held := run.current_getLast?
          rw [all, List.concat_eq_append, List.getLast?_concat] at held
          have later := step.later_of_installs installs held
          rw [all, List.concat_eq_append] at ih inside
          rcases List.mem_append.mp inside with earlier | final
          · have order := (List.pairwise_append.mp ih).2.2 old earlier last (by simp)
            exact Instant.lt_of_lt_of_le order (Instant.le_of_lt later)
          · rwa [List.mem_singleton.mp final]

/-- A token that is put into the store expires later than the one that was there. -/
theorem later_of_installed {old new : Token} (run : Run m trace m')
    (held : m.shared.store.current = some old) (inside : new ∈ installed trace) :
    old.expiresAt < new.expiresAt := by
  have order := run.increasing
  rw [held, Option.toList_some, List.singleton_append] at order
  exact (List.pairwise_cons.mp order).1 new inside

/-- Of two tokens that the store holds one after the other, the second one expires later. -/
theorem same_or_later {old new : Token} (run : Run m trace m')
    (held : m.shared.store.current = some old) (holds : m'.shared.store.current = some new) :
    old = new ∨ old.expiresAt < new.expiresAt := by
  have last := run.current_getLast?
  rw [held, holds, Option.toList_some, List.singleton_append] at last
  rcases List.mem_cons.mp (List.mem_of_getLast? last.symm) with same | inside
  · exact .inl same.symm
  · exact .inr (run.later_of_installed held inside)

/-- What a look has seen expires no later than the token at the end. -/
theorem expiry_of_look {look : Deed} {seen : Option Token} (run : Run m trace m')
    (happened : .did look ∈ trace) (saw : look.exchange = ⟨.currentToken, seen⟩) :
    Token.expiryOf seen ≤ m'.shared.store.expiry := by
  obtain ⟨first, later, rfl⟩ := List.append_of_mem happened
  obtain ⟨before, after, _, step, rest⟩ := run.cut
  have found : seen = before.shared.store.current := step.answer saw rfl
  rw [found]
  exact Instant.le_trans step.expiry_le rest.expiry_le

/-- A look that saw a token was a look at the current one. -/
theorem seen_of_look {look : Deed} {t : Token} {later : List Label}
    (run : Run m (trace ++ .did look :: later) m')
    (seen : look.exchange = ⟨.currentToken, some t⟩) :
    ∃ before after, Run m trace before ∧ Run after later m' ∧
      before.shared.store.expiry = t.expiresAt ∧ after.shared.store.expiry = t.expiresAt := by
  obtain ⟨before, after, first, step, rest⟩ := run.cut
  have answered : some t = before.shared.store.current := step.answer seen rfl
  have expiry : before.shared.store.expiry = t.expiresAt := by
    rw [TokenStore.expiry, ← answered]
    rfl
  refine ⟨before, after, first, rest, expiry, ?_⟩
  rw [step.shared, seen]
  exact expiry

/-- The look that saw the token with the earlier expiry came first. -/
theorem looks_in_order {look look' : Deed} {t t' : Token} (run : Run m trace m')
    (happened : .did look ∈ trace) (seen : look.exchange = ⟨.currentToken, some t⟩)
    (happened' : .did look' ∈ trace) (seen' : look'.exchange = ⟨.currentToken, some t'⟩)
    (order : t.expiresAt < t'.expiresAt) :
    ∃ first between rest, trace = first ++ .did look :: between ++ .did look' :: rest := by
  obtain ⟨first, more, rfl⟩ := List.append_of_mem happened
  rcases List.mem_append.mp happened' with before | after
  · obtain ⟨start, between, rfl⟩ := List.append_of_mem before
    rw [List.append_assoc, List.cons_append] at run
    obtain ⟨_, middle, _, onward, _, expiry'⟩ := run.seen_of_look seen'
    obtain ⟨_, _, between, _, expiry, _⟩ := onward.seen_of_look seen
    have upward := between.expiry_le
    rw [expiry, expiry'] at upward
    exact absurd upward (Instant.not_le.mpr order)
  · rcases List.mem_cons.mp after with same | inside
    · obtain rfl := Label.did.inj same
      rw [seen', Exchange.mk.injEq] at seen
      obtain rfl := Option.some.inj (eq_of_heq seen.2)
      exact absurd (Instant.le_refl t'.expiresAt) (Instant.not_le.mpr order)
    · obtain ⟨between, rest, rfl⟩ := List.append_of_mem inside
      exact ⟨first, between, rest, by rw [List.append_assoc, List.cons_append]⟩

end Run
end TokenKeeper
