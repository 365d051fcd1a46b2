import TokenKeeper.Url.Form

/-!
# Forms through encoding and back

Reading a form gives back the pairs that it was written from, whatever the characters of their
names and values. Two facts carry this: what is written for a byte is read as that byte, and
nothing that is written for a byte is one of the characters that separate pairs, names and values.
-/

namespace TokenKeeper.Url

variable {b : UInt8} {n : Nat} {c : Char}

/-! ## Characters and bytes -/

theorem bytesOf_eq (cs : List Char) : bytesOf cs = cs.flatMap String.utf8EncodeChar := by
  simp [bytesOf, String.toByteArray_ofList, List.utf8Encode]

theorem bytesOf_append (cs ds : List Char) : bytesOf (cs ++ ds) = bytesOf cs ++ bytesOf ds := by
  simp only [bytesOf_eq, List.flatMap_append]

theorem toNat_ofNat (small : n < 256) : (Char.ofNat n).toNat = n := by
  have valid : n.isValidChar := Or.inl (by omega)
  rw [Char.ofNat, dif_pos valid]
  rfl

theorem ofNat_toNat_byte (ascii : c.toNat < 128) : Char.ofNat (UInt8.ofNat c.toNat).toNat = c := by
  rw [UInt8.toNat_ofNat_of_lt' (by simp [UInt8.size]; omega), Char.ofNat_toNat]

/-- A character of ASCII is one byte. -/
theorem utf8EncodeChar_of_ascii (ascii : c.toNat < 128) :
    String.utf8EncodeChar c = [UInt8.ofNat c.toNat] :=
  String.utf8EncodeChar_eq_singleton
    (Char.utf8Size_eq_one_iff.mpr (UInt32.le_iff_toNat_le.mpr (Nat.le_of_lt_succ ascii)))

theorem bytesOf_of_ascii {cs : List Char} (ascii : ∀ c ∈ cs, c.toNat < 128) :
    bytesOf cs = cs.map fun c => UInt8.ofNat c.toNat := by
  rw [bytesOf_eq]
  induction cs with
  | nil => rfl
  | cons c cs ih =>
      rw [List.flatMap_cons, utf8EncodeChar_of_ascii (ascii c List.mem_cons_self),
        ih fun d inside => ascii d (List.mem_cons_of_mem c inside)]
      rfl

/-! ## Escapes -/

theorem decode_cons_of_ne (plain : b ≠ 37) (rest : List UInt8) :
    decode (b :: rest) = b :: decode rest := by
  rcases rest with _ | ⟨x, _ | ⟨y, rest⟩⟩
  · rfl
  · rfl
  · rw [decode, if_neg plain]

theorem ascii_hexDigit : ∀ n < 16, (hexDigit n).toNat < 128 := by decide

theorem hexValue?_hexDigit : ∀ n < 16, hexValue? (hexDigit n) = some n := by decide

/-- An escape is read as its byte. -/
theorem decode_escape (b : UInt8) (rest : List UInt8) :
    decode ((escape b).map (fun c => UInt8.ofNat c.toNat) ++ rest) = b :: decode rest := by
  have bound := b.toNat_lt
  have high : b.toNat / 16 < 16 := by omega
  have low : b.toNat % 16 < 16 := by omega
  have whole : 16 * (b.toNat / 16) + b.toNat % 16 = b.toNat := Nat.div_add_mod _ _
  simp only [escape, List.map_cons, List.map_nil, List.cons_append, List.nil_append]
  rw [decode, if_pos (by decide), ofNat_toNat_byte (ascii_hexDigit _ high),
    ofNat_toNat_byte (ascii_hexDigit _ low), hexValue?_hexDigit _ high, hexValue?_hexDigit _ low]
  simp only [whole, UInt8.ofNat_toNat]

namespace Form

/-! ## What is written -/

/-- What can stand in an encoded name or value. -/
def IsWritten (c : Char) : Prop :=
  c = '+' ∨ c = '%' ∨ (c.toNat < 128 ∧ isPlain (UInt8.ofNat c.toNat) = true)

instance : DecidablePred IsWritten := fun c =>
  inferInstanceAs (Decidable (c = '+' ∨ c = '%' ∨ _))

theorem IsWritten.ascii (written : IsWritten c) : c.toNat < 128 := by
  rcases written with rfl | rfl | ⟨ascii, -⟩
  · decide
  · decide
  · exact ascii

theorem IsWritten.ne {d : Char} (written : IsWritten c) (separator : ¬ IsWritten d) : c ≠ d :=
  fun same => separator (same ▸ written)

theorem toNat_lt_of_isPlain (plain : isPlain b = true) : b.toNat < 128 := by
  simp only [isPlain, Bool.or_eq_true, Bool.and_eq_true, decide_eq_true_eq] at plain
  omega

theorem isWritten_of_mem_escape (inside : c ∈ escape b) : IsWritten c := by
  have digits : ∀ n < 16, IsWritten (hexDigit n) := by decide
  have bound := b.toNat_lt
  simp only [escape, List.mem_cons, List.not_mem_nil, or_false] at inside
  rcases inside with rfl | rfl | rfl
  · exact .inr (.inl rfl)
  · exact digits _ (by omega)
  · exact digits _ (by omega)

theorem isWritten_of_mem_encodeByte (inside : c ∈ encodeByte b) : IsWritten c := by
  unfold encodeByte at inside
  split at inside
  · exact .inl (List.mem_singleton.mp inside)
  · split at inside
    · rename_i plain
      have ascii := toNat_lt_of_isPlain plain
      obtain rfl := List.mem_singleton.mp inside
      have same := toNat_ofNat (Nat.lt_trans ascii (by decide : 128 < 256))
      refine .inr (.inr ⟨by rw [same]; exact ascii, ?_⟩)
      rw [same, UInt8.ofNat_toNat]
      exact plain
    · exact isWritten_of_mem_escape inside

theorem isWritten_of_mem_encode {s : String} (inside : c ∈ encode s) : IsWritten c := by
  obtain ⟨b, -, inside⟩ := List.mem_flatMap.mp inside
  exact isWritten_of_mem_encodeByte inside

/-! ## Names and values -/

/-- A plus in an encoded text stands for a space. -/
def spaced (c : Char) : Char := if c = '+' then ' ' else c

theorem decode?_eq (cs : List Char) :
    decode? cs = textOf? (Url.decode (bytesOf (cs.map spaced))) := rfl

theorem map_spaced_escape (b : UInt8) : (escape b).map spaced = escape b := by
  have digits : ∀ n < 16, spaced (hexDigit n) = hexDigit n := by decide
  have bound := b.toNat_lt
  simp only [escape, List.map_cons, List.map_nil, digits (b.toNat / 16) (by omega),
    digits (b.toNat % 16) (by omega)]
  rfl

/-- What is written for a byte is read as that byte. -/
theorem decode_encodeByte (b : UInt8) (rest : List UInt8) :
    Url.decode (bytesOf ((encodeByte b).map spaced) ++ rest) = b :: Url.decode rest := by
  unfold encodeByte
  split
  · rename_i blank
    subst blank
    exact decode_cons_of_ne (by decide) rest
  · split
    · rename_i plain
      have ascii := toNat_lt_of_isPlain plain
      have same := toNat_ofNat (Nat.lt_trans ascii (by decide : 128 < 256))
      -- A byte that stands for itself is neither taken for a space nor for the start of an escape.
      have plus : b ≠ 43 := fun same => absurd (same ▸ plain) (by decide)
      have percent : b ≠ 37 := fun same => absurd (same ▸ plain) (by decide)
      have kept : spaced (Char.ofNat b.toNat) = Char.ofNat b.toNat := if_neg fun read =>
        plus (UInt8.toNat_inj.mp (same.symm.trans (congrArg Char.toNat read)))
      rw [List.map_singleton, kept, bytesOf_of_ascii (by simpa [same] using ascii)]
      simp only [List.map_singleton, same, UInt8.ofNat_toNat, List.singleton_append]
      exact decode_cons_of_ne percent rest
    · have ascii : ∀ c ∈ escape b, c.toNat < 128 := fun c inside =>
        (isWritten_of_mem_escape inside).ascii
      rw [map_spaced_escape, bytesOf_of_ascii ascii, decode_escape]

theorem decode_encodeBytes (bs : List UInt8) :
    Url.decode (bytesOf ((bs.flatMap encodeByte).map spaced)) = bs := by
  induction bs with
  | nil => rfl
  | cons b bs ih =>
      rw [List.flatMap_cons, List.map_append, bytesOf_append, decode_encodeByte, ih]

/-- Decoding undoes the encoding of every text. -/
theorem decode?_encode (s : String) : decode? (encode s) = some s := by
  rw [decode?_eq, encode, decode_encodeBytes, textOf?_bytesOf, String.ofList_toList]

/-! ## Pairs -/

theorem readPair?_encodePair (p : String × String) : readPair? (encodePair p) = some p := by
  have name : ∀ c ∈ encode p.1, (c != '=') = true := fun c inside =>
    bne_iff_ne.mpr ((isWritten_of_mem_encode inside).ne (by decide))
  rw [readPair?, encodePair, List.takeWhile_append_of_pos name, List.dropWhile_append_of_pos name]
  simp [decode?_encode]

theorem splitOn_eq (separator : Char) (cs : List Char) :
    splitOn separator cs = cs.splitOn separator := by
  simp only [List.splitOn_eq_splitOnP]
  induction cs with
  | nil => rfl
  | cons c cs ih =>
      rw [splitOn, ih, List.splitOnP_cons_eq_if_modifyHead]
      simp only [beq_iff_eq]
      cases parts : cs.splitOnP (· == separator) with
      | nil => exact absurd parts (List.splitOnP_ne_nil _ cs)
      | cons part parts => rfl

theorem render_eq (pairs : List (String × String)) :
    render pairs = ['&'].intercalate (pairs.map encodePair) := by
  induction pairs using render.induct with
  | case1 => rfl
  | case2 p => rw [render, List.map_singleton, List.intercalate_singleton]
  | case3 p rest nonempty ih =>
      cases rest with
      | nil => exact absurd rfl nonempty
      | cons q rest =>
          rw [render, ih]
          · simp only [List.map_cons, List.intercalate_cons_cons, List.append_assoc]
            rfl
          · exact nonempty

theorem isWritten_of_mem_encodePair {p : String × String} (inside : c ∈ encodePair p) :
    IsWritten c ∨ c = '=' := by
  rcases List.mem_append.mp inside with inside | inside
  · exact .inl (isWritten_of_mem_encode inside)
  · rcases List.mem_cons.mp inside with same | inside
    · exact .inr same
    · exact .inl (isWritten_of_mem_encode inside)

/-- Only pairs are between the separators. -/
theorem parts_render (pairs : List (String × String)) :
    ((splitOn '&' (render pairs)).filter fun part => !part.isEmpty) = pairs.map encodePair := by
  cases pairs with
  | nil => rfl
  | cons p pairs =>
      have apart : ∀ part ∈ (p :: pairs).map encodePair, '&' ∉ part := by
        intro part among inside
        obtain ⟨q, -, rfl⟩ := List.mem_map.mp among
        exact absurd (isWritten_of_mem_encodePair inside) (by decide)
      rw [splitOn_eq, render_eq, List.splitOn_intercalate '&' apart (List.cons_ne_nil _ _)]
      refine List.filter_eq_self.mpr fun part among => ?_
      obtain ⟨q, -, rfl⟩ := List.mem_map.mp among
      simp [encodePair]

/-- Reading a form gives back the pairs that it was written from. -/
theorem read?_render (pairs : List (String × String)) : read? (render pairs) = some pairs := by
  have each : readPair? ∘ encodePair = fun p => pure (id p) := funext readPair?_encodePair
  rw [read?, parts_render, List.mapM_map, each, List.mapM_pure, List.map_id]
  rfl

theorem read?_ofList_render (pairs : List (String × String)) :
    read? (String.ofList (render pairs)).toList = some pairs := by
  rw [String.toList_ofList, read?_render]

/-- Nothing in a form ends the query that it is part of. -/
theorem hash_not_mem_render (pairs : List (String × String)) : '#' ∉ render pairs := by
  intro inside
  induction pairs using render.induct with
  | case1 => cases inside
  | case2 p => exact absurd (isWritten_of_mem_encodePair inside) (by decide)
  | case3 p rest nonempty ih =>
      rw [render] at inside
      · rcases List.mem_append.mp inside with inside | inside
        · exact absurd (isWritten_of_mem_encodePair inside) (by decide)
        · exact ih ((List.mem_cons.mp inside).resolve_left (by decide))
      · exact nonempty

end Form
end TokenKeeper.Url
