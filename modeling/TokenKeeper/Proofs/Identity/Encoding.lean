import TokenKeeper.Identity.Claims

/-!
# Bytes through base 64 and back

What is written in base 64 is read again, whichever alphabet it is written in and with or without
padding, once its digits are those of the alphabet for web addresses.
-/

namespace TokenKeeper.Base64

variable {a : Alphabet} {padded : Bool} {bs : List UInt8} {n : Nat}

/-- The digits of some bytes as numbers. -/
def digits : List UInt8 → List Nat
  | [] => []
  | [x] =>
    let n := x.toNat * 65536
    [n / 262144, n / 4096 % 64]
  | [x, y] =>
    let n := x.toNat * 65536 + y.toNat * 256
    [n / 262144, n / 4096 % 64, n / 64 % 64]
  | x :: y :: z :: rest =>
    let n := x.toNat * 65536 + y.toNat * 256 + z.toNat
    n / 262144 :: n / 4096 % 64 :: n / 64 % 64 :: n % 64 :: digits rest

/-- What fills the last group of so many bytes. -/
def fill (padded : Bool) (bs : List UInt8) : List Char :=
  if padded then List.replicate ((3 - bs.length % 3) % 3) '=' else []

theorem encode_eq (a : Alphabet) (padded : Bool) (bs : List UInt8) :
    encode a padded bs = (digits bs).map (digit a) ++ fill padded bs := by
  induction bs using digits.induct with
  | case1 => cases padded <;> rfl
  | case2 x => cases padded <;> rfl
  | case3 x y => cases padded <;> rfl
  | case4 x y z rest ih =>
      have same : fill padded (x :: y :: z :: rest) = fill padded rest := by
        simp [fill, Nat.add_assoc]
      rw [encode, digits, ih, same]
      rfl

theorem digits_lt : ∀ n ∈ digits bs, n < 64 := by
  induction bs using digits.induct with
  | case1 => simp [digits]
  | case2 x =>
      have := x.toNat_lt
      simp only [digits, List.mem_cons, List.not_mem_nil, or_false, forall_eq_or_imp, forall_eq]
      omega
  | case3 x y =>
      have := x.toNat_lt
      have := y.toNat_lt
      simp only [digits, List.mem_cons, List.not_mem_nil, or_false, forall_eq_or_imp, forall_eq]
      omega
  | case4 x y z rest ih =>
      have := x.toNat_lt
      have := y.toNat_lt
      have := z.toNat_lt
      simp only [digits, List.mem_cons, forall_eq_or_imp]
      exact ⟨by omega, by omega, by omega, by omega, ih⟩

theorem length_digits (bs : List UInt8) :
    (digits bs).length % 4 = (bs.length % 3 + if bs.length % 3 = 0 then 0 else 1) := by
  induction bs using digits.induct with
  | case1 => rfl
  | case2 x => rfl
  | case3 x y => rfl
  | case4 x y z rest ih =>
      simpa [digits, Nat.add_assoc] using ih

theorem byte_eq {x : UInt8} (same : n = x.toNat) : byte n = x := by
  rw [same]
  exact UInt8.ofNat_toNat

theorem bytes?_digits (bs : List UInt8) : bytes? (digits bs) = some bs := by
  induction bs using digits.induct with
  | case1 => rfl
  | case2 x =>
      have := x.toNat_lt
      simp only [digits, bytes?]
      rw [if_pos (by omega), byte_eq (x := x) (by omega)]
  | case3 x y =>
      have := x.toNat_lt
      have := y.toNat_lt
      simp only [digits, bytes?]
      rw [if_pos (by omega), byte_eq (x := x) (by omega), byte_eq (x := y) (by omega)]
  | case4 x y z rest ih =>
      have := x.toNat_lt
      have := y.toNat_lt
      have := z.toNat_lt
      simp only [digits, bytes?, ih, Option.map_some]
      rw [byte_eq (x := x) (by omega), byte_eq (x := y) (by omega), byte_eq (x := z) (by omega)]

/-! ## Characters -/

theorem digit?_digit (a : Alphabet) : ∀ n < 64, digit? a (digit a n) = some n := by
  cases a <;> decide

theorem webDigit_digit (a : Alphabet) :
    ∀ n < 64, Identity.webDigit (digit a n) = digit .urlSafe n := by
  cases a <;> decide

theorem digit_ne (a : Alphabet) : ∀ n < 64, digit a n ≠ '=' ∧ digit a n ≠ '.' := by
  cases a <;> decide

/-- With its digits taken into the alphabet for web addresses, a text is what it would be there. -/
theorem map_webDigit_encode (a : Alphabet) (padded : Bool) (bs : List UInt8) :
    (encode a padded bs).map Identity.webDigit = encode .urlSafe padded bs := by
  have pads : (fill padded bs).map Identity.webDigit = fill padded bs := by
    cases padded with
    | false => rfl
    | true => simp [fill, Identity.webDigit]
  rw [encode_eq, encode_eq, List.map_append, List.map_map, pads]
  congr 1
  exact List.map_congr_left fun n inside => webDigit_digit a n (digits_lt n inside)

theorem point_not_mem_encode (a : Alphabet) (padded : Bool) (bs : List UInt8) :
    '.' ∉ encode a padded bs := by
  rw [encode_eq]
  intro inside
  rcases List.mem_append.mp inside with inside | inside
  · obtain ⟨n, among, same⟩ := List.mem_map.mp inside
    exact (digit_ne a n (digits_lt n among)).2 same
  · cases padded with
    | false => cases inside
    | true => exact absurd (List.eq_of_mem_replicate inside) (by decide)

/-! ## Reading -/

theorem padding_encode (a : Alphabet) (padded : Bool) (bs : List UInt8) :
    padding (encode a padded bs) = (fill padded bs).length := by
  have pads : ∀ c ∈ (fill padded bs).reverse, (c == '=') = true := by
    intro c inside
    cases padded with
    | false => cases inside
    | true => simp [List.eq_of_mem_replicate (List.mem_reverse.mp inside)]
  have none : ((digits bs).map (digit a)).reverse.takeWhile (· == '=') = [] := by
    cases last : ((digits bs).map (digit a)).reverse with
    | nil => rfl
    | cons c rest =>
        obtain ⟨n, among, rfl⟩ := List.mem_map.mp (List.mem_reverse.mp
          (last ▸ List.mem_cons_self : c ∈ ((digits bs).map (digit a)).reverse))
        simp [(digit_ne a n (digits_lt n among)).1]
  rw [padding, encode_eq, List.reverse_append, List.takeWhile_append_of_pos pads, none,
    List.append_nil, List.length_reverse]

theorem allows_fill (padded : Bool) (bs : List UInt8) :
    PaddingRule.allows .optional (digits bs).length (fill padded bs).length = true := by
  have same := length_digits bs
  have below := Nat.mod_lt bs.length (by decide : 0 < 3)
  cases padded with
  | false => simp [PaddingRule.allows, fill]
  | true =>
      simp only [PaddingRule.allows, fill, if_true, List.length_replicate, decide_eq_true_eq]
      split at same <;> omega

theorem mapM_digit? (a : Alphabet) {ns : List Nat} (small : ∀ n ∈ ns, n < 64) :
    (ns.map (digit a)).mapM (digit? a) = some ns := by
  induction ns with
  | nil => rfl
  | cons n ns ih =>
      have first := digit?_digit a n (small n List.mem_cons_self)
      have rest := ih fun n inside => small n (List.mem_cons_of_mem _ inside)
      simp [first, rest]

/-- Reading undoes writing, with or without padding. -/
theorem decode?_encode (a : Alphabet) (padded : Bool) (bs : List UInt8) :
    decode? a .optional (encode a padded bs) = some bs := by
  have body : (encode a padded bs).take ((encode a padded bs).length - (fill padded bs).length) =
      (digits bs).map (digit a) := by
    rw [encode_eq, List.length_append, Nat.add_sub_cancel]
    exact List.take_left
  simp only [decode?, padding_encode, body, List.length_map, allows_fill, if_true,
    mapM_digit? a digits_lt, bytes?_digits]

end TokenKeeper.Base64
