import TokenKeeper.Proofs.Json.Record
import TokenKeeper.Proofs.Settings.Spelling

/-!
# Whole numbers as text

A whole number in its usual decimal form is read as itself if it has 64 bits, with a sign if it is
below zero. Beyond that it is read as a number that is not whole, or not at all.
-/

namespace TokenKeeper.Json

open Settings.Environment

variable {p : Purpose} {minus : Bool} {n m : Nat} {cs lead trail : List Char} {out : Option Json}

section Digits

/-- The sign of a number in its usual form. -/
def sign (minus : Bool) : List Char := if minus then ['-'] else []

theorem toList_toString (n : Int) :
    (toString n).toList = sign (decide (n < 0)) ++ Nat.toDigits 10 n.natAbs := by
  by_cases below : n < 0
  · obtain ⟨m, rfl⟩ : ∃ m : Nat, n = -(m : Int) := ⟨n.natAbs, by omega⟩
    rw [toList_toString_neg (by omega), Int.natAbs_neg, Int.natAbs_natCast,
      decide_eq_true below]
    rfl
  · obtain ⟨m, rfl⟩ := Int.eq_ofNat_of_zero_le (Int.not_lt.mp below)
    rw [toList_toString_natCast, Int.natAbs_natCast, decide_eq_false below]
    rfl

/-- Further digits do not make a number smaller. -/
theorem le_ofDigitChars (cs : List Char) (m : Nat) : m ≤ Nat.ofDigitChars 10 cs m := by
  rw [Nat.ofDigitChars_eq_ofDigitChars_zero]
  exact Nat.le_add_right_of_le (Nat.le_mul_of_pos_left _ (Nat.pow_pos (by decide)))

/-- Digits that no longer count are passed over. -/
theorem takeDigit_dropped {s : Nat × Nat × Nat} (dropped : s.2.2 ≠ 0) :
    (cs.foldl takeDigit s).2.2 ≠ 0 := by
  induction cs generalizing s with
  | nil => exact dropped
  | cons c cs ih =>
      refine ih ?_
      rw [takeDigit, if_neg fun fits => dropped fits.1]
      exact Nat.succ_ne_zero _

/-- Digits are all added if the number that they make has 64 bits, and only then. -/
theorem takeDigit_digits (added : Nat) (cs : List Char) (small : m < Width.bound64) :
    (Nat.ofDigitChars 10 cs m < Width.bound64 →
      cs.foldl takeDigit (m, added, 0) = (Nat.ofDigitChars 10 cs m, added + cs.length, 0)) ∧
    (Width.bound64 ≤ Nat.ofDigitChars 10 cs m → (cs.foldl takeDigit (m, added, 0)).2.2 ≠ 0) := by
  induction cs generalizing m added with
  | nil => exact ⟨fun _ => rfl, fun large => absurd small (Nat.not_lt.mpr large)⟩
  | cons c cs ih =>
      have next : Nat.ofDigitChars 10 (c :: cs) m =
          Nat.ofDigitChars 10 cs (m * 10 + (c.toNat - 48)) := by
        rw [Nat.ofDigitChars_cons, Nat.mul_comm]
        rfl
      rw [next, List.foldl_cons, takeDigit]
      dsimp only
      by_cases fits : m * 10 + (c.toNat - 48) < Width.bound64
      · rw [if_pos ⟨rfl, fits⟩, List.length_cons, Nat.add_comm cs.length, ← Nat.add_assoc]
        exact ih _ fits
      · rw [if_neg fun both => fits both.2]
        refine ⟨fun small => ?_, fun _ => takeDigit_dropped (Nat.succ_ne_zero _)⟩
        exact absurd (Nat.lt_of_le_of_lt (le_ofDigitChars cs _) small) fits

theorem toDigits_all_digits : ∀ c ∈ Nat.toDigits 10 n, c.isDigit = true :=
  fun _ inside => Nat.isDigit_of_mem_toDigits (by decide) (by decide) inside

/-- The digits of a number, after its sign. -/
theorem readNumber_toDigits (p : Purpose) (minus : Bool) (n : Nat) :
    (n < Width.bound64 →
      readNumber p minus (Nat.toDigits 10 n) = some (ofSigned minus n, [])) ∧
    (Width.bound64 ≤ n →
      ∃ m e, readNumber p minus (Nat.toDigits 10 n) = ofScaled p minus m e []) := by
  have whole : (Nat.toDigits 10 n).takeWhile Char.isDigit = Nat.toDigits 10 n :=
    List.takeWhile_eq_self_iff.mpr toDigits_all_digits
  have rest : (Nat.toDigits 10 n).dropWhile Char.isDigit = [] :=
    List.dropWhile_eq_nil_iff.mpr toDigits_all_digits
  have usual : ¬ ((Nat.toDigits 10 n).isEmpty = true ∨
      (Nat.toDigits 10 n).head? = some '0' ∧ 1 < (Nat.toDigits 10 n).length) := by
    rintro (none | ⟨zero, longer⟩)
    · exact Nat.toDigits_ne_nil (List.isEmpty_iff.mp none)
    · by_cases positive : 0 < n
      · exact head?_toDigits positive zero
      · obtain rfl := Nat.eq_zero_of_not_pos positive
        exact absurd longer (by decide)
  have value := takeDigit_digits (m := 0) 0 (Nat.toDigits 10 n) (by decide)
  rw [Nat.ofDigitChars_toDigits (by decide) (by decide)] at value
  simp only [readNumber, whole, rest, if_neg usual, takeDigits, readRest]
  constructor
  · intro small
    rw [value.1 small]
    rfl
  · intro large
    rw [if_pos (value.2 large)]
    exact ⟨_, _, rfl⟩

end Digits

theorem isBlank_iff {c : Char} : isBlank c = true ↔ c = ' ' ∨ c = '\n' ∨ c = '\t' ∨ c = '\r' := by
  simp [isBlank, or_assoc]

theorem isBlank_eq_false_of_digit {c : Char} (digit : c.isDigit = true) : isBlank c = false := by
  refine Bool.eq_false_iff.mpr fun white => ?_
  obtain rfl | rfl | rfl | rfl := isBlank_iff.mp white <;> exact absurd digit (by decide)

/-- Nothing blank carries on a number. -/
theorem endsNumber_of_blank {t : List Char} (blank : skipBlank trail = []) (ends : EndsNumber t) :
    EndsNumber (trail ++ t) := by
  cases trail with
  | nil => exact ends
  | cons c trail =>
      intro d head
      cases head
      have white : isBlank c = true := List.dropWhile_eq_nil_iff.mp blank c List.mem_cons_self
      obtain rfl | rfl | rfl | rfl := isBlank_iff.mp white <;> decide

/-- A number with its sign, in front of anything. -/
theorem readValue_number (minus : Bool) (fuel depth : Nat) {t : List Char}
    (blank : skipBlank lead = []) (ends : EndsNumber t) :
    readValue p (fuel + 1) depth
        (lead ++ (sign minus ++ Nat.toDigits 10 n ++ t)) =
      (readNumber p minus (Nat.toDigits 10 n)).map (followedBy t) := by
  obtain ⟨c, digits, first⟩ := List.exists_cons_of_ne_nil (Nat.toDigits_ne_nil (b := 10) (n := n))
  have digit : c.isDigit = true := toDigits_all_digits c (first ▸ List.mem_cons_self)
  rw [← readNumber_append ends, first]
  cases minus with
  | true =>
      have shown : skipBlank (lead ++ ('-' :: (c :: (digits ++ t)))) = '-' :: c :: (digits ++ t) :=
        skipBlank_append_of_blank blank
      simp only [sign, if_true, List.cons_append, List.nil_append, readValue, shown]
  | false =>
      have shown : skipBlank (lead ++ (c :: (digits ++ t))) = c :: (digits ++ t) := by
        rw [skipBlank_append_of_blank blank, skipBlank,
          List.dropWhile_cons_of_neg (by simp [isBlank_eq_false_of_digit digit])]
      exact readValue_of_digit shown digit

/-- A number takes all its digits. -/
theorem readNumber_rest {r : Json × List Char}
    (read : readNumber p minus (Nat.toDigits 10 n) = some r) : r.2 = [] := by
  obtain ⟨small, large⟩ := readNumber_toDigits p minus n
  by_cases fits : n < Width.bound64
  · rw [small fits] at read
    cases read
    rfl
  · obtain ⟨m, e, same⟩ := large (Nat.not_lt.mp fits)
    rw [same] at read
    cases p with
    | value =>
        obtain ⟨_, _, rfl⟩ := Option.map_eq_some_iff.mp read
        rfl
    | extent =>
        cases read
        rfl

/-- A number between blanks stands for what is read from its digits. -/
theorem standsFor_number (minus : Bool) (before : skipBlank lead = [])
    (behind : skipBlank trail = []) :
    StandsFor p (lead ++ (sign minus ++ Nat.toDigits 10 n) ++ trail)
      ((readNumber p minus (Nat.toDigits 10 n)).map (·.1)) := by
  intro fuel t enough ends
  obtain ⟨fuel, rfl⟩ : ∃ k, fuel = k + 1 := ⟨fuel - 1, by omega⟩
  have read := readValue_number (p := p) (n := n) minus fuel 127 before
    (endsNumber_of_blank behind ends)
  simp only [List.append_assoc] at read ⊢
  rw [read]
  cases number : readNumber p minus (Nat.toDigits 10 n) with
  | none => rfl
  | some r =>
      simp [followedBy, readNumber_rest number, skipBlank_append_of_blank behind]

/-- What is read from the usual form of a whole number: the number itself, or beyond 64 bits one
that is not whole or nothing. -/
inductive Outcome (n : Int) : Option Json → Prop
  | natural (low : 0 ≤ n) (high : n < Width.bound64) : Outcome n (some (.natural n.toNat))
  | negative (high : n < 0) (low : -(Width.signedBound64 : Int) ≤ n) :
      Outcome n (some (.negative n))
  | decimal (wide : n < -(Width.signedBound64 : Int) ∨ Width.bound64 ≤ n) (x : Float) :
      Outcome n (some (.decimal x))
  | refused (wide : n < -(Width.signedBound64 : Int) ∨ Width.bound64 ≤ n) : Outcome n none

theorem outcome_ofScaled {e : Int} {k : Int}
    (wide : k < -(Width.signedBound64 : Int) ∨ Width.bound64 ≤ k) :
    Outcome k ((ofScaled .value minus m e []).map (·.1)) := by
  rw [ofScaled]
  cases scale m e with
  | none => exact .refused wide
  | some x => exact .decimal wide _

theorem outcome_toDigits (n : Int) :
    Outcome n ((readNumber .value (decide (n < 0)) (Nat.toDigits 10 n.natAbs)).map (·.1)) := by
  obtain ⟨small, large⟩ := readNumber_toDigits .value (decide (n < 0)) n.natAbs
  have apart : Width.signedBound64 < Width.bound64 := by decide
  by_cases fits : n.natAbs < Width.bound64
  · rw [small fits, Option.map_some, ofSigned]
    by_cases below : n < 0
    · rw [if_pos (decide_eq_true below)]
      by_cases wide : n.natAbs = 0 ∨ Width.signedBound64 < n.natAbs
      · rw [if_pos wide]
        exact .decimal (.inl (by omega)) _
      · have value : -(n.natAbs : Int) = n := by omega
        rw [if_neg wide, value]
        exact .negative below (by omega)
    · have value : n.natAbs = n.toNat := by omega
      rw [if_neg (by simpa using below), value]
      exact .natural (by omega) (by omega)
  · obtain ⟨m, e, same⟩ := large (Nat.not_lt.mp fits)
    rw [same]
    exact outcome_ofScaled (by omega)

/-- The usual form of a whole number between blanks stands for one of these. -/
theorem exists_outcome (n : Int) (before : skipBlank lead = []) (behind : skipBlank trail = []) :
    ∃ out, Outcome n out ∧ StandsFor .value (lead ++ (toString n).toList ++ trail) out := by
  refine ⟨_, outcome_toDigits n, ?_⟩
  rw [toList_toString]
  exact standsFor_number _ before behind

end TokenKeeper.Json
