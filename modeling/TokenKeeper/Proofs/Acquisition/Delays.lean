import Mathlib.Algebra.Group.Nat.Defs
import TokenKeeper.Proofs.Acquisition.Outcome

/-!
# The delays between attempts

A doubling delay is a power of two times its base, up to a cap. The factor has 32 bits: from the
attempt on at which the power no longer fits it stays at the largest number that does. Where the
cap is reached before, this is not seen; a longer cap is never reached, and the delays stop short
of it. `delays_double_iff` says exactly when the delays follow the powers of two, for a single
delay and for those that an acquisition waits for between its attempts.
-/

namespace TokenKeeper

variable {base cap : Duration} {attempt : Nat}

theorem doublingFactor_eq (attempt : Nat) :
    doublingFactor attempt = min (2 ^ attempt) 4294967295 := by
  unfold doublingFactor
  split
  · rename_i few
    have fits : 2 ^ attempt ≤ 2 ^ 31 := Nat.pow_le_pow_right (by decide) (by omega)
    exact (Nat.min_eq_left (Nat.le_trans fits (by decide))).symm
  · rename_i many
    have large : 2 ^ 32 ≤ 2 ^ attempt := Nat.pow_le_pow_right (by decide) (by omega)
    exact (Nat.min_eq_right (Nat.le_trans (by decide) large)).symm

/-- Products beyond the longest duration are cut off by the cap anyway. -/
theorem nanos_exponentialDelay (base cap : Duration) (attempt : Nat) :
    (exponentialDelay base cap attempt).nanos =
      min (base.nanos * min (2 ^ attempt) 4294967295) cap.nanos := by
  have bound : cap.nanos ≤ Duration.maxNanos := cap.bounded
  rw [exponentialDelay, Duration.nanos_shorter, Duration.nanos_scale, doublingFactor_eq]
  change min (min _ _) _ = _
  omega

/-- The power of two of this attempt fits the factor, or what the factor stays behind is cut off
by the cap, or there is nothing to double. -/
def Doubling (base cap : Duration) (attempt : Nat) : Prop :=
  attempt < 32 ∨ base.nanos = 0 ∨ cap.nanos ≤ base.nanos * 4294967295

instance (base cap : Duration) (attempt : Nat) : Decidable (Doubling base cap attempt) :=
  inferInstanceAs (Decidable (_ ∨ _))

theorem le_two_pow_iff : 4294967296 ≤ 2 ^ attempt ↔ 32 ≤ attempt := by
  change 2 ^ 32 ≤ 2 ^ attempt ↔ _
  exact Nat.pow_le_pow_iff_right (by decide)

/-- A product with a factor that is too small passes for the whole exactly where the cap cuts it
off, or where there is nothing to multiply. -/
theorem min_mul_eq_iff {b cap factor whole : Nat} (short : b * (factor + 1) ≤ whole)
    (nothing : b = 0 → whole = 0) :
    min (b * factor) cap = min whole cap ↔ b = 0 ∨ cap ≤ b * factor := by
  rw [Nat.mul_add_one] at short
  constructor
  case mp =>
    intro same
    by_contra below
    obtain ⟨positive, uncut⟩ := not_or.mp below
    omega
  case mpr =>
    rintro (zero | cut)
    · rw [nothing zero, zero, Nat.zero_mul]
    · rw [Nat.min_eq_right cut, Nat.min_eq_right (by omega)]

theorem exponentialDelay_eq_iff (base cap : Duration) (attempt : Nat) :
    (exponentialDelay base cap attempt).nanos = min (base.nanos * 2 ^ attempt) cap.nanos ↔
      Doubling base cap attempt := by
  rw [nanos_exponentialDelay, Doubling]
  by_cases many : 32 ≤ attempt
  case neg =>
    have fits : ¬ 4294967296 ≤ 2 ^ attempt := mt le_two_pow_iff.mp many
    rw [Nat.min_eq_left (by omega : 2 ^ attempt ≤ 4294967295)]
    exact iff_of_true rfl (.inl (by omega))
  case pos =>
    have power : 4294967295 + 1 ≤ 2 ^ attempt := le_two_pow_iff.mpr many
    rw [Nat.min_eq_right (by omega : 4294967295 ≤ 2 ^ attempt),
      min_mul_eq_iff (Nat.mul_le_mul_left base.nanos power) fun zero => by rw [zero, Nat.zero_mul]]
    omega

/-- A delay is twice the one before it, or the cap. -/
theorem exponentialDelay_succ_iff (base cap : Duration) (attempt : Nat) :
    (exponentialDelay base cap (attempt + 1)).nanos =
        min (2 * (exponentialDelay base cap attempt).nanos) cap.nanos ↔
      Doubling base cap (attempt + 1) := by
  have twice (x : Nat) : min (2 * min x cap.nanos) cap.nanos = min (2 * x) cap.nanos := by omega
  have power : 2 ^ (attempt + 1) = 2 * 2 ^ attempt := Nat.pow_succ'
  rw [nanos_exponentialDelay, nanos_exponentialDelay, twice, Doubling, Nat.mul_left_comm]
  by_cases many : 32 ≤ attempt + 1
  case neg =>
    have fits : ¬ 4294967296 ≤ 2 ^ (attempt + 1) := mt le_two_pow_iff.mp many
    rw [Nat.min_eq_left (by omega : 2 ^ (attempt + 1) ≤ 4294967295),
      Nat.min_eq_left (by omega : 2 ^ attempt ≤ 4294967295), power]
    exact iff_of_true rfl (.inl (by omega))
  case pos =>
    have large : 4294967296 ≤ 2 ^ (attempt + 1) := le_two_pow_iff.mpr many
    have half : 4294967295 + 1 ≤ 2 * min (2 ^ attempt) 4294967295 := by omega
    rw [Nat.min_eq_right (by omega : 4294967295 ≤ 2 ^ (attempt + 1)),
      min_mul_eq_iff (Nat.mul_le_mul_left base.nanos half) fun zero => by rw [zero, Nat.zero_mul]]
    omega

namespace Engine

variable {e : Engine}

/-- An acquisition waits once between each two of its attempts, for the delay that the policy
gives after the first of them. -/
theorem acquireAlone_pauses (e : Engine) (service : Service) (s : Shared)
    (alive : Connection → Bool) (report : Bool) :
    ∃ (error : Nat → IdentityError) (delay : Nat → Duration) (waits : Nat),
      (∀ i < waits, e.FailsWith service i (error i) (delay i)) ∧
      (e.acquireAlone service s alive report).deadlines =
        (List.range (waits + 1)).map e.policy.timeouts.forAttempt ∧
      (e.acquireAlone service s alive report).pauses = (List.range waits).map delay := by
  obtain ⟨error, delay, last, bound, fails, ended⟩ :=
    e.exists_end service (e.policy.maxAttempts - 1)
  refine ⟨error, delay, last, fails, ?_⟩
  suffices tries : ∃ backoffs told shared result, e.acquireAlone service s alive report =
      e.tried error delay (last + 1) backoffs last told shared result by
    obtain ⟨backoffs, told, shared, result, account⟩ := tries
    rw [account]
    exact ⟨rfl, rfl⟩
  obtain ⟨t, issued⟩ | ⟨p, panicked⟩ | ⟨failure, ended⟩ := ended
  case inl =>
    cases known : e.nameFor? s.store t with
    | none => exact ⟨_, _, _, _, acquireAlone_of_nameless bound fails issued known⟩
    | some name =>
        have account := @acquireAlone_of_named e service s alive error delay last t report name _
          bound fails issued known rfl
        split at account
        · exact ⟨_, _, _, _, account⟩
        · exact ⟨_, _, _, _, account⟩
  case inr.inl => exact ⟨_, _, _, _, acquireAlone_of_panic bound fails panicked⟩
  case inr.inr =>
    by_cases exhausted : last = e.policy.maxAttempts - 1
    · subst exhausted
      exact ⟨_, _, _, _, acquireAlone_of_exhausted fails failure⟩
    · obtain ⟨p, panicked⟩ := ended.resolve_left exhausted
      exact ⟨_, _, _, _, acquireAlone_of_backoff_panic (by omega) fails failure panicked⟩

/-- With doubling delays an acquisition waits for the first ones of them. -/
theorem pauses_of_exponential (doubles : e.policy.backoff = .exponential base cap)
    (service : Service) (s : Shared) (alive : Connection → Bool) (report : Bool) :
    (e.acquireAlone service s alive report).pauses =
      (List.range ((e.acquireAlone service s alive report).deadlines.length - 1)).map
        (exponentialDelay base cap) := by
  obtain ⟨error, delay, waits, fails, asked, paused⟩ :=
    e.acquireAlone_pauses service s alive report
  rw [paused, asked, List.length_map, List.length_range, Nat.add_sub_cancel]
  refine List.map_congr_left fun i member => ?_
  have waited := (fails i (List.mem_range.mp member)).backoff
  rw [doubles] at waited
  exact (Except.ok.inj waited).symm

end Engine

/-- The delay after an attempt is the base times a power of two that stops at 32 bits, up to the
cap. It is the unbounded power of two exactly where the factor is `Doubling`. An acquisition waits
for these delays, one between each two attempts, and each is twice the one before or the cap
exactly where the factor is. -/
theorem delays_double_iff (base cap : Duration) :
    (∀ attempt, (exponentialDelay base cap attempt).nanos =
      min (base.nanos * min (2 ^ attempt) 4294967295) cap.nanos) ∧
    (∀ attempt, (exponentialDelay base cap attempt).nanos =
        min (base.nanos * 2 ^ attempt) cap.nanos ↔ Doubling base cap attempt) ∧
    ∀ (e : Engine) (service : Service) (s : Shared) (alive : Connection → Bool) (report : Bool),
      e.policy.backoff = .exponential base cap →
      let account := e.acquireAlone service s alive report
      account.pauses =
        (List.range (account.deadlines.length - 1)).map (exponentialDelay base cap) ∧
      ∀ (i : Nat) (before after : Duration),
        account.pauses[i]? = some before → account.pauses[i + 1]? = some after →
        (after.nanos = min (2 * before.nanos) cap.nanos ↔ Doubling base cap (i + 1)) := by
  refine ⟨nanos_exponentialDelay base cap, exponentialDelay_eq_iff base cap, ?_⟩
  intro e service s alive report doubles account
  have paused : account.pauses =
      (List.range (account.deadlines.length - 1)).map (exponentialDelay base cap) :=
    Engine.pauses_of_exponential doubles service s alive report
  refine ⟨paused, ?_⟩
  intro i before after first second
  have pause {i : Nat} {d : Duration} (waited : account.pauses[i]? = some d) :
      exponentialDelay base cap i = d := by
    rw [paused, List.getElem?_map, Option.map_eq_some_iff] at waited
    obtain ⟨j, found, same⟩ := waited
    obtain ⟨inside, rfl⟩ := List.getElem?_eq_some_iff.mp found
    rwa [List.getElem_range] at same
  rw [← pause first, ← pause second]
  exact exponentialDelay_succ_iff base cap i

/-- The shortest base, and a cap of half a minute. -/
def shortBase : Duration := ⟨1, by decide⟩

def longCap : Duration := ⟨30000000000, by decide⟩

/-- An engine that tries often. -/
def patient : Engine where
  policy := { maxAttempts := 34, backoff := .exponential shortBase longCap }
  principal := none

/-- A service that never answers. -/
def silentService : Service := ⟨fun _ => .late, Request.blank⟩

theorem patient_tries :
    (patient.acquireAlone silentService {} (fun _ => true) false).deadlines.length = 34 := by
  have fails (i : Nat) : patient.FailsWith silentService i
      (.timeout (patient.policy.timeouts.forAttempt i).seconds)
      (exponentialDelay shortBase longCap i) := ⟨rfl, rfl⟩
  rw [Engine.acquireAlone_of_exhausted (fun i _ => fails i) (fails 33).failure, Engine.tried,
    List.length_map, List.length_range]
  rfl

/-- The delays of a patient engine double up to the 32nd one. The 33rd stays below twice that and
below the cap. -/
theorem delay_stops_doubling :
    patient.policy.backoff = .exponential shortBase longCap ∧
      ∃ before after : Duration,
        (patient.acquireAlone silentService {} (fun _ => true) false).pauses[31]? = some before ∧
        (patient.acquireAlone silentService {} (fun _ => true) false).pauses[32]? = some after ∧
        before.nanos = 2147483648 ∧ after.nanos = 4294967295 ∧
        after.nanos ≠ min (2 * before.nanos) longCap.nanos := by
  obtain ⟨law, -, waits⟩ := delays_double_iff shortBase longCap
  obtain ⟨paused, doubles⟩ := waits patient silentService {} (fun _ => true) false rfl
  have pause {i : Nat} (inside : i < 33) :
      (patient.acquireAlone silentService {} (fun _ => true) false).pauses[i]? =
        some (exponentialDelay shortBase longCap i) := by
    rw [paused, patient_tries, List.getElem?_map, List.getElem?_range inside, Option.map_some]
  have stuck : ¬ Doubling shortBase longCap 32 := by decide
  refine ⟨rfl, _, _, pause (by decide), pause (by decide), ?_, ?_, ?_⟩
  · exact (law 31).trans (by decide)
  · exact (law 32).trans (by decide)
  · exact fun same => stuck ((doubles 31 _ _ (pause (by decide)) (pause (by decide))).mp same)

end TokenKeeper
