import TokenKeeper.Proofs.Acquisition.Named

/-!
# Credentials

A credential takes the token and the username out of the store in two looks, and others may act
between them. An acquisition puts them there in the other order, and neither is ever taken away:
a token that was seen at the first look came after a username, and the second look finds the one
username that the store has had since. Acquisitions that find no username at the same time make no
difference, because only the first name is kept.
-/

namespace TokenKeeper

variable {e : Engine} {m : Machine e} {trace earlier later : List Label} {look : Deed}
variable {duty : Duty} {past : List Exchange} {name : Option String} {t : Token} {i : Nat}

namespace Run

/-- A look at the store sees the token that was put there last. -/
theorem seen_eq_getLast? {seen : Option Token}
    (run : Run ({} : Machine e) (earlier ++ .did look :: later) m)
    (looks : look.exchange = ⟨.currentToken, seen⟩) : seen = (installed earlier).getLast? := by
  obtain ⟨before, _, first, step, _⟩ := run.cut
  have answered : seen = before.shared.store.current := step.answer looks rfl
  rw [answered, first.current, Option.or_none]

/-- Who has seen a token finds a username, and it is the one of the store from then on. -/
theorem username_of_lookup (run : Run ({} : Machine e) trace m)
    (happened : .did ⟨i, duty, none, ⟨.currentToken, some t⟩ :: past, ⟨.username, name⟩⟩ ∈ trace) :
    m.shared.store.username = name ∧ name.isSome = true := by
  obtain ⟨_, _, rfl⟩ := List.append_of_mem happened
  obtain ⟨atLookup, _, toLookup, lookup, onward⟩ := run.cut
  have found : name = atLookup.shared.store.username := lookup.answer rfl rfl
  have present : atLookup.shared.store.username.isSome = true := by
    have looked : Label.did ⟨i, duty, none, [], ⟨.currentToken, some t⟩⟩ ∈ _ :=
      toLookup.deed_before lookup (Nat.zero_le _) rfl rfl
    obtain ⟨_, _, rfl⟩ := List.append_of_mem looked
    obtain ⟨atLook, _, toLook, look, between⟩ := toLookup.cut
    have seen : some t = atLook.shared.store.current := look.answer rfl rfl
    exact between.username (look.username (toLook.named (by rw [← seen]; rfl)))
  obtain ⟨given, known⟩ := Option.isSome_iff_exists.mp present
  rw [found, known]
  exact ⟨onward.username_eq (lookup.username_eq known), rfl⟩

/-- A store with a token has a username, and a username stays what it is. A credential that has
been asked for ends, if it does, without a panic: as none if there was no token when it looked, and
else with the secret of the token that was current then and with the username of the store. -/
theorem credential_named (run : Run ({} : Machine e) trace m) :
    (m.shared.store.current.isSome = true → m.shared.store.username.isSome = true) ∧
      (∀ later m' name, Run m later m' → m.shared.store.username = some name →
        m'.shared.store.username = some name) ∧
      ∀ i t r, m.threads[i]? = some t → t.duty = .call .credential → t.rest.ended? = some r →
        ∃ earlier look later, trace = earlier ++ .did look :: later ∧ look.thread = i ∧
          look.exchange.request = .currentToken ∧
            (installed earlier = [] ∧ r = .ok (.credential none) ∨
              ∃ token name, (installed earlier).getLast? = some token ∧
                m.shared.store.username = some name ∧
                  r = .ok (.credential (some ⟨some name, token.secret⟩))) := by
  refine ⟨run.named, fun _ _ _ rest known => rest.username_eq known, ?_⟩
  intro i t r here duty ended
  have own := (run.history (Nat.zero_le _) here).own
  rcases Thread.ends duty ended (Call.credential_meets (e := e)) with
    ⟨past, rfl⟩ | ⟨token, between, name, past, rfl⟩
  · obtain ⟨earlier, later, rfl⟩ := List.append_of_mem (own [] _ [] past)
    refine ⟨earlier, _, later, rfl, rfl, rfl, .inl ⟨?_, rfl⟩⟩
    exact List.getLast?_eq_none_iff.mp (run.seen_eq_getLast? rfl).symm
  · have lookup := own (⟨.currentToken, some token⟩ :: between) ⟨.username, name⟩ [] past
    obtain ⟨known, present⟩ := run.username_of_lookup lookup
    obtain ⟨given, rfl⟩ := Option.isSome_iff_exists.mp present
    obtain ⟨earlier, later, rfl⟩ := List.append_of_mem
      (own [] ⟨.currentToken, some token⟩ (between ++ [(⟨.username, some given⟩ : Exchange)]) past)
    exact ⟨earlier, _, later, rfl, rfl, rfl,
      .inr ⟨token, given, (run.seen_eq_getLast? rfl).symm, known, rfl⟩⟩

/-- Tokens that carry the object ids `a` and `b`. -/
def secretOfA : String := "h.eyJvaWQiOiJhIn0.s"

def secretOfB : String := "h.eyJvaWQiOiJiIn0.s"

/-- Two acquisitions find no username, and a third one has got a token that carries none. The
second one is the first to set its username and to install its token, and a credential sees that
token. Then the first one goes on to install its own, and only then the credential goes on. -/
def contended : Machine (⟨.standard, none⟩ : Engine) × List Label :=
  ({} : Machine (⟨.standard, none⟩ : Engine)).play
    (.begin (.acquire false) :: Move.tells 0 2 (Request.issuing ⟨secretOfA, .max⟩) ++
      .begin (.acquire false) :: Move.tells 1 2 (Request.issuing ⟨secretOfB, default⟩) ++
      .begin (.acquire false) :: Move.tells 2 2 (Request.issuing ⟨"opaque", .max⟩) ++
      Move.tells 1 4 Request.blank ++
      .begin .credential :: Move.tells 3 1 Request.blank ++
      Move.tells 0 4 Request.blank ++ Move.tells 3 4 Request.blank)

/-- The credential has the first token with the username that both tokens are stored with. -/
theorem credential_of_contended :
    contended.1.shared.store.current.map (·.secret) = some secretOfA ∧
      contended.1.shared.store.username = some "b" ∧
      ∃ t, contended.1.threads[3]? = some t ∧ t.duty = .call .credential ∧
        t.rest.ended? = some (.ok (.credential (some ⟨some "b", secretOfB⟩))) ∧
        ∃ earlier look later, contended.2 = earlier ++ .did look :: later ∧ look.thread = 3 ∧
          (installed earlier).getLast?.map (·.secret) = some secretOfB := by
  have run : Run {} contended.2 contended.1 := Machine.play_run _ _
  have given : (contended.1.threads[3]?.bind Thread.credential?) =
      some (some ⟨some "b", secretOfB⟩) := by decide +kernel
  obtain ⟨t, here, given⟩ := Option.bind_eq_some_iff.mp given
  have duty : contended.1.threads[3]?.map (·.duty) = some (.call .credential) := by decide +kernel
  rw [here] at duty
  have ended := Thread.ended_of_credential? given
  obtain ⟨_, _, handed⟩ := run.credential_named
  obtain ⟨earlier, look, later, cut, thread, _, none | ⟨token, _, last, _, same⟩⟩ :=
    handed 3 t _ here (Option.some.inj duty) ended
  · cases none.2
  · simp only [Except.ok.injEq, Output.credential.injEq, Option.some.injEq,
      Credential.mk.injEq] at same
    refine ⟨by decide +kernel, by decide +kernel, t, here, Option.some.inj duty, ended, earlier,
      look, later, cut, thread, ?_⟩
    rw [last, Option.map_some, same.2]

end Run
end TokenKeeper
