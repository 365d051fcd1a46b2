import TokenKeeper.Identity.ManagedIdentity
import TokenKeeper.Identity.ServicePrincipal
import TokenKeeper.Proofs.Json.Literal

/-!
# Expiries in replies

A reply gives the expiry of a token as a whole number of seconds, of any size. Either the token
expires at exactly that instant or the calendar has no such instant and the reply is invalid.
-/

namespace TokenKeeper.Identity

open Json (OpenRecord Spells StandsFor EndsNumber skipBlank)

section Integers

variable {minus : Bool} {m k : Nat} {n : Int} {cs : List Char}

/-- A number with its sign. -/
def signed (minus : Bool) (m : Nat) : Int := if minus then -(m : Int) else m

theorem isSigned64_of_le (le : m ≤ k) (fits : Width.isSigned64 (signed minus k) = true) :
    Width.isSigned64 (signed minus m) = true := by
  rw [Width.isSigned64_iff] at fits ⊢
  unfold signed at *
  split at fits <;> simp_all <;> omega

/-- Digits behind those of a number that fits: the number of all of them, if it fits too. -/
theorem readDigits_eq (minus : Bool) (digits : ∀ c ∈ cs, c.isDigit = true)
    (fits : Width.isSigned64 (signed minus m) = true) :
    readDigits minus (signed minus m) cs =
      if Width.isSigned64 (signed minus (Nat.ofDigitChars 10 cs m)) = true then
        .ok (signed minus (Nat.ofDigitChars 10 cs m))
      else .error (if minus then .tooSmall else .tooLarge) := by
  induction cs generalizing m with
  | nil => rw [readDigits, Nat.ofDigitChars_nil, if_pos fits]
  | cons c cs ih =>
      have digit := digits c List.mem_cons_self
      have next : (if minus then 10 * signed minus m - ((c.toNat - 48 : Nat) : Int)
          else 10 * signed minus m + ((c.toNat - 48 : Nat) : Int)) =
          signed minus (10 * m + (c.toNat - 48)) := by
        cases minus with
        | true =>
            simp only [signed, if_true]
            omega
        | false =>
            simp only [signed, if_false, Bool.false_eq_true]
            omega
      have behind : Nat.ofDigitChars 10 (c :: cs) m =
          Nat.ofDigitChars 10 cs (10 * m + (c.toNat - 48)) := Nat.ofDigitChars_cons
      rw [readDigits, if_pos digit, behind]
      simp only [next]
      by_cases more : Width.isSigned64 (signed minus (10 * m + (c.toNat - 48))) = true
      · rw [if_pos more]
        exact ih (fun c inside => digits c (List.mem_cons_of_mem _ inside)) more
      · rw [if_neg more, if_neg fun fits =>
          more (isSigned64_of_le (Json.le_ofDigitChars cs _) fits)]

theorem splitSign_toDigits (minus : Bool) (m : Nat) :
    Decimal.splitSign (Json.sign minus ++ Nat.toDigits 10 m) = (minus, Nat.toDigits 10 m) := by
  cases minus with
  | true => rfl
  | false =>
      obtain ⟨c, rest, first⟩ :=
        List.exists_cons_of_ne_nil (Nat.toDigits_ne_nil (b := 10) (n := m))
      have digit : c.isDigit = true := Json.toDigits_all_digits c (first ▸ List.mem_cons_self)
      change Decimal.splitSign (Nat.toDigits 10 m) = _
      rw [first]
      unfold Decimal.splitSign
      split <;> simp_all

/-- A whole number in its usual form is read as itself if it has 64 bits. -/
theorem readInteger_toString (n : Int) :
    readInteger (toString n).toList =
      if Width.isSigned64 n = true then .ok n
      else .error (if n < 0 then .tooSmall else .tooLarge) := by
  have value : signed (decide (n < 0)) n.natAbs = n := by
    by_cases below : n < 0
    · rw [decide_eq_true below]
      change -(n.natAbs : Int) = n
      omega
    · rw [decide_eq_false below]
      change (n.natAbs : Int) = n
      omega
  have zero : signed (decide (n < 0)) 0 = 0 := by simp [signed]
  have read := readDigits_eq (decide (n < 0)) (m := 0)
    (Json.toDigits_all_digits (n := n.natAbs)) (by rw [zero]; decide)
  rw [zero, Nat.ofDigitChars_toDigits (by decide) (by decide), value] at read
  have digits : (Nat.toDigits 10 n.natAbs).isEmpty = false := by simp
  have text : (Json.sign (decide (n < 0)) ++ Nat.toDigits 10 n.natAbs).isEmpty = false := by simp
  rw [Json.toList_toString, readInteger, splitSign_toDigits]
  simp only [text, digits, Bool.false_eq_true, if_false, read, decide_eq_true_eq]

end Integers

section Blanks

variable {front back cs : List Char}

/-- Blanks around a text without blanks are taken off. -/
theorem trimmed_between (before : ∀ c ∈ front, Text.isBlank c = true)
    (behind : ∀ c ∈ back, Text.isBlank c = true) (present : cs ≠ [])
    (shown : ∀ c ∈ cs, Text.isBlank c = false) : Text.trimmed (front ++ cs ++ back) = cs := by
  have kept {c : Char} {t : List Char} (shown : Text.isBlank c = false) :
      (c :: t).dropWhile Text.isBlank = c :: t :=
    List.dropWhile_cons_of_neg (by simp [shown])
  obtain ⟨c, rest, first⟩ := List.exists_cons_of_ne_nil present
  obtain ⟨d, others, last⟩ := List.exists_cons_of_ne_nil (List.reverse_ne_nil_iff.mpr present)
  have head : Text.isBlank c = false := shown c (first ▸ List.mem_cons_self)
  have tail : Text.isBlank d = false :=
    shown d (List.mem_reverse.mp (last ▸ List.mem_cons_self))
  calc Text.trimmed (front ++ cs ++ back)
      = ((cs ++ back).reverse.dropWhile Text.isBlank).reverse := by
        rw [Text.trimmed, List.append_assoc, List.dropWhile_append_of_pos before, first,
          List.cons_append, kept head]
    _ = (cs.reverse.dropWhile Text.isBlank).reverse := by
        rw [List.reverse_append, List.dropWhile_append_of_pos
          fun c inside => behind c (List.mem_reverse.mp inside)]
    _ = cs := by rw [last, kept tail, ← last, List.reverse_reverse]

theorem isBlank_of_digit {c : Char} (digit : c.isDigit = true) : Text.isBlank c = false := by
  obtain ⟨low, high⟩ := Settings.Environment.digit_bounds digit
  simp only [Text.isBlank, Text.blankRanges, List.any_cons, List.any_nil, Bool.or_eq_false_iff,
    Bool.and_eq_false_iff, decide_eq_false_iff_not, and_true]
  omega

theorem toString_ne_nil (n : Int) : (toString n).toList ≠ [] := by
  rw [Json.toList_toString]
  exact List.append_ne_nil_of_right_ne_nil _ Nat.toDigits_ne_nil

/-- The usual form of a whole number has no blanks. -/
theorem toString_shown (n : Int) : ∀ c ∈ (toString n).toList, Text.isBlank c = false := by
  intro c inside
  rw [Json.toList_toString] at inside
  rcases List.mem_append.mp inside with minus | digit
  · unfold Json.sign at minus
    split at minus
    · rw [List.mem_singleton.mp minus]
      decide
    · cases minus
  · exact isBlank_of_digit (Json.toDigits_all_digits c digit)

end Blanks

/-- A reply that is decoded exactly or not at all: to a token that expires this many nanoseconds
after the start of 1970, or else it is invalid. -/
structure Decodes (secret : String) (nanos : Int) (result : Except IdentityError AccessToken) :
    Prop where
  within (t : Instant) : t.nanos = nanos → result = .ok ⟨secret, t⟩
  beyond : nanos < Instant.min.nanos ∨ Instant.max.nanos < nanos →
    ∃ reason, result = .error (.invalidResponse reason)

section Decoding

variable {secret : String} {nanos n : Int} {result : Except IdentityError AccessToken}
  {reason : String}

theorem decodes_ofNanos? (secret : String) (nanos : Int) (reason : String) :
    Decodes secret nanos ((Instant.ofNanos? nanos).elim (.error (.invalidResponse reason))
      fun t => .ok ⟨secret, t⟩) where
  within t same := by rw [Instant.ofNanos?_eq_some_iff.mpr same, Option.elim_some]
  beyond outside := by
    rw [Instant.ofNanos?_eq_none_iff.mpr outside]
    exact ⟨_, rfl⟩

/-- A number that has not got 64 bits is beyond the calendar. -/
theorem decodes_wide (wide : ¬ Width.isSigned64 n = true) :
    Decodes secret (n * nanosPerSecond) (.error (.invalidResponse reason)) where
  within t same := by
    have low := t.lower
    have high := t.upper
    rw [Width.isSigned64_iff] at wide
    simp only [nanosPerSecond] at same
    omega
  beyond _ := ⟨_, rfl⟩

/-- A number of 64 bits is decoded through the calendar. -/
theorem decodes_instant {u : UnixSeconds} (read : u.seconds = .ok n) :
    Decodes secret (n * nanosPerSecond) (u.instant.map fun t => ⟨secret, t⟩) := by
  have decodes := decodes_ofNanos? secret (n * nanosPerSecond)
    ("expires_on out of range: " ++ toString n)
  cases calendar : Instant.ofNanos? (n * nanosPerSecond) with
  | some t =>
      rw [calendar] at decodes
      simp only [UnixSeconds.instant, read, Instant.ofSeconds?, bind, Except.bind, calendar]
      exact decodes
  | none =>
      rw [calendar] at decodes
      simp only [UnixSeconds.instant, read, Instant.ofSeconds?, bind, Except.bind, calendar]
      exact decodes

end Decoding

section ManagedIdentities

open ManagedIdentity (tokenOf)

variable {secret : String} {n : Int} {cs : List Char} {out : Option Json}

/-- A record of a reply without the member that is left open: it has one token, as text. -/
structure HasToken {names : List String} {name : String} (o : OpenRecord names name)
    (secret : String) : Prop where
  once : o.valuesOf "access_token" = [.text secret]
  free : o.valuesOf name = []

/-- A text for a number of seconds: the number in its usual form, or any way to write it as text
with blanks around it. -/
inductive SpellsSeconds (n : Int) : List Char → Prop
  | number (front back : List Char) (before : skipBlank front = []) (behind : skipBlank back = []) :
      SpellsSeconds n (front ++ (toString n).toList ++ back)
  | text (cs front back : List Char) (before : ∀ c ∈ front, Text.isBlank c = true)
      (behind : ∀ c ∈ back, Text.isBlank c = true)
      (spelt : Spells .value cs (.text (String.ofList (front ++ (toString n).toList ++ back)))) :
      SpellsSeconds n cs

theorem tokenOf_fill (o : OpenRecord ["access_token", "expires_on"] "expires_on")
    (token : HasToken o secret) (stands : StandsFor .value cs out) :
    tokenOf (Url.bytesOf (o.fill cs)) = (out.bind UnixSeconds.ofJson?).elim
      (.error (.invalidResponse
        "Failed to parse IMDS token response: error decoding response body"))
      fun u => u.instant.map fun t => ⟨secret, t⟩ := by
  have other : "access_token" ≠ "expires_on" := by decide
  rw [tokenOf, Json.membersOfBytes?_bytesOf, o.ofRecord?_fill stands]
  cases out with
  | none => rfl
  | some j =>
      simp only [Option.map_some, Option.bind_some, o.members?_members other token.once token.free]
      cases UnixSeconds.ofJson? j with
      | none => rfl
      | some u => rfl

theorem not_isSigned64_of_wide
    (wide : n < -(Width.signedBound64 : Int) ∨ Width.bound64 ≤ n) :
    ¬ Width.isSigned64 n = true := by
  have apart : Width.signedBound64 ≤ Width.bound64 := by decide
  simp only [Width.isSigned64, Bool.and_eq_true, decide_eq_true_eq]
  omega

/-- What a number stands for decides about the reply. -/
theorem decodes_outcome (o : OpenRecord ["access_token", "expires_on"] "expires_on")
    (token : HasToken o secret) (outcome : Json.Outcome n out) (stands : StandsFor .value cs out) :
    Decodes secret (n * nanosPerSecond) (tokenOf (Url.bytesOf (o.fill cs))) := by
  rw [tokenOf_fill o token stands]
  cases outcome with
  | natural low high =>
      obtain ⟨m, rfl⟩ := Int.eq_ofNat_of_zero_le low
      by_cases fits : m < Width.signedBound64
      · have number : UnixSeconds.ofJson? (.natural m) = some (.number m) := by
          simp [UnixSeconds.ofJson?, Width.toSigned64?, fits]
        rw [Int.toNat_natCast, Option.bind_some, number, Option.elim_some]
        exact decodes_instant rfl
      · have wide : UnixSeconds.ofJson? (.natural m) = none := by
          simp [UnixSeconds.ofJson?, Width.toSigned64?, fits]
        rw [Int.toNat_natCast, Option.bind_some, wide, Option.elim_none]
        refine decodes_wide ?_
        simp only [Width.isSigned64, Bool.and_eq_true, decide_eq_true_eq]
        omega
  | negative high low =>
      rw [Option.bind_some, UnixSeconds.ofJson?, Option.elim_some]
      exact decodes_instant rfl
  | decimal wide x =>
      have unread : UnixSeconds.ofJson? (.decimal x) = none := rfl
      rw [Option.bind_some, unread, Option.elim_none]
      exact decodes_wide (not_isSigned64_of_wide wide)
  | refused wide =>
      rw [Option.bind_none, Option.elim_none]
      exact decodes_wide (not_isSigned64_of_wide wide)

/-- A text is read as a number whatever blanks are around it. -/
theorem decodes_text {front back : List Char}
    (before : ∀ c ∈ front, Text.isBlank c = true) (behind : ∀ c ∈ back, Text.isBlank c = true) :
    Decodes secret (n * nanosPerSecond)
      ((UnixSeconds.text (String.ofList (front ++ (toString n).toList ++ back))).instant.map
        fun t => ⟨secret, t⟩) := by
  have trimmed := trimmed_between before behind (toString_ne_nil n) (toString_shown n)
  have read := readInteger_toString n
  by_cases fits : Width.isSigned64 n = true
  · rw [if_pos fits] at read
    refine decodes_instant ?_
    rw [UnixSeconds.seconds, String.toList_ofList, trimmed, read]
    rfl
  · rw [if_neg fits] at read
    rw [UnixSeconds.instant, UnixSeconds.seconds, String.toList_ofList, trimmed, read]
    exact decodes_wide fits

theorem decodes_spelt (o : OpenRecord ["access_token", "expires_on"] "expires_on")
    (token : HasToken o secret) (seconds : SpellsSeconds n cs) :
    Decodes secret (n * nanosPerSecond) (tokenOf (Url.bytesOf (o.fill cs))) := by
  cases seconds with
  | number front back before behind =>
      obtain ⟨out, outcome, stands⟩ := Json.exists_outcome n before behind
      exact decodes_outcome o token outcome stands
  | text _ front back before behind spelt =>
      rw [tokenOf_fill o token spelt.standsFor]
      exact decodes_text before behind

end ManagedIdentities

section ServicePrincipals

open ServicePrincipal (tokenOf)

variable {secret : String} {lead trail : List Char}

/-- A lifetime of 64 bits is added to the time of the reply. -/
theorem decodes_lifetime (o : OpenRecord ["access_token", "expires_in"] "expires_in")
    (token : HasToken o secret) (now : Instant) {n : Nat} (wide : n < Width.bound64)
    (before : skipBlank lead = []) (behind : skipBlank trail = []) :
    Decodes secret (now.nanos + n * nanosPerSecond)
      (tokenOf (Url.bytesOf (o.fill (lead ++ (toString n).toList ++ trail))) now) := by
  obtain ⟨out, outcome, stands⟩ := Json.exists_outcome n before behind
  have same : toString (n : Int) = toString n := rfl
  have other : "access_token" ≠ "expires_in" := by decide
  have natural : out = some (.natural n) := by
    cases outcome with
    | natural _ _ => rw [Int.toNat_natCast]
    | negative below _ => omega
    | decimal beyond _ => omega
    | refused beyond => omega
  subst natural
  have decodes := decodes_ofNanos? secret (now.nanos + n * nanosPerSecond)
    ("expires_in out of range: " ++ toString n)
  rw [tokenOf, Json.membersOfBytes?_bytesOf, ← same, o.ofRecord?_fill stands]
  simp only [Option.map_some, Option.bind_some, o.members?_members other token.once token.free,
    now.bind_add?_eq]
  cases calendar : Instant.ofNanos? (now.nanos + n * nanosPerSecond) with
  | some t =>
      rw [calendar] at decodes
      exact decodes
  | none =>
      rw [calendar] at decodes
      exact decodes

end ServicePrincipals

/-- The answer to a request comes back with success and this body. -/
def Receives (request : Except IdentityError HttpRequest) (peer : Peer) (body : List UInt8) :
    Prop :=
  ∃ r status, request = .ok r ∧ send peer r = .ok ⟨status, body⟩ ∧ isSuccess status = true

theorem getToken_of_receives {m : ManagedIdentity} {s : Surroundings} {body : List UInt8}
    (received : Receives m.request s.peer body) : m.getToken s = ManagedIdentity.tokenOf body := by
  obtain ⟨r, status, made, answered, success⟩ := received
  simp only [ManagedIdentity.getToken, made, bind, Except.bind, answered, success, if_true]

theorem ServicePrincipal.getToken_of_receives {p : ServicePrincipal} {s : Surroundings}
    {body : List UInt8} (received : Receives (p.request s) s.peer body) :
    p.getToken s = tokenOf body s.now := by
  obtain ⟨r, status, made, answered, success⟩ := received
  simp only [getToken, made, bind, Except.bind, answered, success, if_true]

/-- Expiries are decoded exactly or rejected. The metadata service gives the seconds since 1970 as a
number or as text, of any size; the token service gives the seconds from now as a number. -/
theorem expiry_exact :
    (∀ (m : ManagedIdentity) (s : Surroundings)
      (o : OpenRecord ["access_token", "expires_on"] "expires_on") (secret : String) (n : Int)
      (cs : List Char), HasToken o secret → SpellsSeconds n cs →
        Receives m.request s.peer (Url.bytesOf (o.fill cs)) →
          Decodes secret (n * nanosPerSecond) (m.getToken s)) ∧
    (∀ (p : ServicePrincipal) (s : Surroundings)
      (o : OpenRecord ["access_token", "expires_in"] "expires_in") (secret : String) (n : Nat)
      (lead trail : List Char), HasToken o secret → n < Width.bound64 →
        skipBlank lead = [] → skipBlank trail = [] →
        Receives (p.request s) s.peer
          (Url.bytesOf (o.fill (lead ++ (toString n).toList ++ trail))) →
          Decodes secret (s.now.nanos + n * nanosPerSecond) (p.getToken s)) := by
  constructor
  · intro m s o secret n cs token seconds received
    rw [getToken_of_receives received]
    exact decodes_spelt o token seconds
  · intro p s o secret n lead trail token wide before behind received
    rw [ServicePrincipal.getToken_of_receives received]
    exact decodes_lifetime o token s.now wide before behind

/-- The member of a reply that holds the token. -/
def tokenMember (name : String) : Json.Member ["access_token", name] where
  nameText := "\"access_token\"".toList
  valueText := "\"t\"".toList
  name := "access_token"
  value := .text "t"
  named := rfl
  spelt := by
    have read : Json.purposeAmong ["access_token", name] "access_token" = .value := by
      simp [Json.purposeAmong]
    rw [read]
    exact ⟨[], rfl, rfl⟩

/-- A reply of the metadata service. The number in another member is too large to be read, which
does not matter where it is passed over. -/
def imdsReply : OpenRecord ["access_token", "expires_on"] "expires_on" where
  lead := []
  before := [tokenMember "expires_on"]
  nameText := "\"expires_on\"".toList
  after := [{ nameText := "\"x\"".toList, valueText := "1e999".toList, name := "x", value := .null,
              named := rfl, spelt := ⟨[], rfl, rfl⟩ }]
  trail := []
  lead_blank := rfl
  trail_blank := rfl
  named := rfl

/-- A reply of the token service. -/
def tokenReply : OpenRecord ["access_token", "expires_in"] "expires_in" where
  lead := []
  before := [tokenMember "expires_in"]
  nameText := "\"expires_in\"".toList
  after := []
  trail := []
  lead_blank := rfl
  trail_blank := rfl
  named := rfl

/-- Everything is answered with this body. -/
def answered (body : String) : Surroundings where
  peer := fun _ => some ⟨200, Url.bytesOf body.toList⟩
  now := default

theorem expiry_of_replies :
    ManagedIdentity.getToken ⟨.systemAssigned, "http://h", "r"⟩
        (answered "\x7b\"access_token\":\"t\",\"expires_on\":\" 1700003600\\n\",\"x\":1e999\x7d") =
      .ok ⟨"t", { nanos := 1700003600000000000 }⟩ ∧
    (∃ reason, ManagedIdentity.getToken ⟨.systemAssigned, "http://h", "r"⟩ (answered
        "\x7b\"access_token\":\"t\",\"expires_on\":100000000000000000000,\"x\":1e999\x7d") =
      .error (.invalidResponse reason)) ∧
    (∃ reason, ServicePrincipal.getToken ⟨"c", "http://h", "s", .secret "x"⟩
        (answered "\x7b\"access_token\":\"t\",\"expires_in\":18446744073709551615\x7d") =
      .error (.invalidResponse reason)) := by
  refine ⟨?_, ?_, ?_⟩
  · exact (expiry_exact.1 _ _ imdsReply "t" 1700003600 "\" 1700003600\\n\"".toList ⟨rfl, rfl⟩
      (.text _ [' '] ['\n'] (List.forall_mem_singleton.mpr rfl)
        (List.forall_mem_singleton.mpr rfl) ⟨[], rfl, rfl⟩)
      ⟨_, 200, rfl, rfl, rfl⟩).within _ rfl
  · exact (expiry_exact.1 _ _ imdsReply "t" 100000000000000000000 _ ⟨rfl, rfl⟩
      (.number [] [] rfl rfl) ⟨_, 200, rfl, rfl, rfl⟩).beyond (.inr (by decide))
  · exact (expiry_exact.2 _ _ tokenReply "t" 18446744073709551615 [] [] ⟨rfl, rfl⟩ (by decide)
      rfl rfl ⟨_, 200, rfl, rfl, rfl⟩).beyond (.inr (by decide))

end TokenKeeper.Identity
