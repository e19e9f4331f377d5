/-
Reading back what was written.

`decode` takes bytes of any kind, and on the bytes of a text it gives the text back.  A character is
written as a first byte and up to three tail bytes, and each of the four lengths has its own range
of first bytes; `firstChar` undoes one character (`firstChar_encoded`), whatever stands behind it,
and the text follows character by character.

The bytes that may stand second after some first bytes leave out just the numbers that are written
shorter and those that are no characters, which is where the bounds on the number of a character
come in.

The other way round, bytes of which nothing has to be replaced are those of the text that they are
read as (`encode_decode`): whatever `firstChar` takes for a character is how it is written.
-/
import CheckMatrix.Text.Utf8

namespace CheckMatrix.Text

/-! ### Tail bytes -/

theorem toNat_byte {n : Nat} (h : n < 256) : (UInt8.ofNat n).toNat = n :=
  UInt8.toNat_ofNat_of_lt' h

theorem toNat_tailByte (n : Nat) : (UInt8.ofNat (n % 64 + 128)).toNat = n % 64 + 128 :=
  toNat_byte (by omega)

theorem isTail_tailByte (n : Nat) : isTail (UInt8.ofNat (n % 64 + 128)) = true := by
  have hbyte := toNat_tailByte n
  simp only [isTail, Bool.and_eq_true, decide_eq_true_eq, UInt8.le_iff_toNat_le, hbyte,
    UInt8.reduceToNat]
  omega

theorem tailBits_tailByte (n : Nat) : tailBits (UInt8.ofNat (n % 64 + 128)) = n % 64 := by
  rw [tailBits, toNat_tailByte]
  omega

/-! ### First bytes -/

theorem firstChar_one {v : Nat} (h : v ≤ 127) (rest : List UInt8) :
    firstChar (UInt8.ofNat v) rest = (some (Char.ofNat v), 0) := by
  have hbyte : (UInt8.ofNat v).toNat = v := toNat_byte (by omega)
  have hfirst : v < 128 := by omega
  unfold firstChar
  simp only [UInt8.lt_iff_toNat_lt, hbyte, UInt8.reduceToNat, if_pos hfirst]

theorem firstChar_two {v : Nat} (hlow : 127 < v) (hhigh : v ≤ 2047) (rest : List UInt8) :
    firstChar (UInt8.ofNat (v / 64 % 32 + 192)) (UInt8.ofNat (v % 64 + 128) :: rest) =
      (some (Char.ofNat v), 1) := by
  have hbyte : (UInt8.ofNat (v / 64 % 32 + 192)).toNat = v / 64 % 32 + 192 := toNat_byte (by omega)
  have hvalue : (v / 64 % 32 + 192) % 32 * 64 + v % 64 = v := by omega
  have hone : ¬ v / 64 % 32 + 192 < 128 := by omega
  have hfirst : 194 ≤ v / 64 % 32 + 192 ∧ v / 64 % 32 + 192 ≤ 223 := by omega
  unfold firstChar
  simp only [UInt8.lt_iff_toNat_lt, UInt8.le_iff_toNat_le, hbyte, UInt8.reduceToNat,
    Bool.and_eq_true, decide_eq_true_eq, if_neg hone, if_pos hfirst, isTail_tailByte, if_true,
    tailBits_tailByte, hvalue]

/-- The second of three bytes is such that no shorter form and no surrogate is meant. -/
theorem secondOfThree_encoded {v : Nat} (hlow : 2047 < v) (hvalid : v < 55296 ∨ 57343 < v)
    (hhigh : v ≤ 65535) :
    secondOfThree (UInt8.ofNat (v / 4096 % 16 + 224)) (UInt8.ofNat (v / 64 % 64 + 128)) = true := by
  have hfirst : (UInt8.ofNat (v / 4096 % 16 + 224)).toNat = v / 4096 % 16 + 224 :=
    toNat_byte (by omega)
  have hsecond := toNat_tailByte (v / 64)
  unfold secondOfThree
  rw [isTail_tailByte]
  simp only [← UInt8.toNat_inj, UInt8.le_iff_toNat_le, hfirst, hsecond, UInt8.reduceToNat]
  split
  · simp only [Bool.and_eq_true, decide_eq_true_eq]
    omega
  · split
    · simp only [Bool.and_eq_true, decide_eq_true_eq]
      omega
    · rfl

theorem firstChar_three {v : Nat} (hlow : 2047 < v) (hvalid : v < 55296 ∨ 57343 < v)
    (hhigh : v ≤ 65535) (rest : List UInt8) :
    firstChar (UInt8.ofNat (v / 4096 % 16 + 224))
        (UInt8.ofNat (v / 64 % 64 + 128) :: UInt8.ofNat (v % 64 + 128) :: rest) =
      (some (Char.ofNat v), 2) := by
  have hbyte : (UInt8.ofNat (v / 4096 % 16 + 224)).toNat = v / 4096 % 16 + 224 :=
    toNat_byte (by omega)
  have hvalue : ((v / 4096 % 16 + 224) % 16 * 64 + v / 64 % 64) * 64 + v % 64 = v := by omega
  have hone : ¬ v / 4096 % 16 + 224 < 128 := by omega
  have htwo : ¬ (194 ≤ v / 4096 % 16 + 224 ∧ v / 4096 % 16 + 224 ≤ 223) := by omega
  have hfirst : 224 ≤ v / 4096 % 16 + 224 ∧ v / 4096 % 16 + 224 ≤ 239 := by omega
  unfold firstChar
  simp only [UInt8.lt_iff_toNat_lt, UInt8.le_iff_toNat_le, hbyte, UInt8.reduceToNat,
    Bool.and_eq_true, decide_eq_true_eq, if_neg hone, if_neg htwo, if_pos hfirst,
    secondOfThree_encoded hlow hvalid hhigh, isTail_tailByte, if_true, tailBits_tailByte, hvalue]

/-- The second of four bytes is such that no shorter form and no number beyond the last is
meant. -/
theorem secondOfFour_encoded {v : Nat} (hlow : 65535 < v) (hhigh : v < 1114112) :
    secondOfFour (UInt8.ofNat (v / 262144 % 8 + 240)) (UInt8.ofNat (v / 4096 % 64 + 128)) =
      true := by
  have hfirst : (UInt8.ofNat (v / 262144 % 8 + 240)).toNat = v / 262144 % 8 + 240 :=
    toNat_byte (by omega)
  have hsecond := toNat_tailByte (v / 4096)
  unfold secondOfFour
  rw [isTail_tailByte]
  simp only [← UInt8.toNat_inj, UInt8.le_iff_toNat_le, hfirst, hsecond, UInt8.reduceToNat]
  split
  · simp only [Bool.and_eq_true, decide_eq_true_eq]
    omega
  · split
    · simp only [Bool.and_eq_true, decide_eq_true_eq]
      omega
    · rfl

theorem firstChar_four {v : Nat} (hlow : 65535 < v) (hhigh : v < 1114112) (rest : List UInt8) :
    firstChar (UInt8.ofNat (v / 262144 % 8 + 240))
        (UInt8.ofNat (v / 4096 % 64 + 128) :: UInt8.ofNat (v / 64 % 64 + 128) ::
          UInt8.ofNat (v % 64 + 128) :: rest) =
      (some (Char.ofNat v), 3) := by
  have hbyte : (UInt8.ofNat (v / 262144 % 8 + 240)).toNat = v / 262144 % 8 + 240 :=
    toNat_byte (by omega)
  have hvalue : (((v / 262144 % 8 + 240) % 8 * 64 + v / 4096 % 64) * 64 + v / 64 % 64) * 64 +
      v % 64 = v := by omega
  have hone : ¬ v / 262144 % 8 + 240 < 128 := by omega
  have htwo : ¬ (194 ≤ v / 262144 % 8 + 240 ∧ v / 262144 % 8 + 240 ≤ 223) := by omega
  have hthree : ¬ (224 ≤ v / 262144 % 8 + 240 ∧ v / 262144 % 8 + 240 ≤ 239) := by omega
  have hfirst : 240 ≤ v / 262144 % 8 + 240 ∧ v / 262144 % 8 + 240 ≤ 244 := by omega
  unfold firstChar
  simp only [UInt8.lt_iff_toNat_lt, UInt8.le_iff_toNat_le, hbyte, UInt8.reduceToNat,
    Bool.and_eq_true, decide_eq_true_eq, if_neg hone, if_neg htwo, if_neg hthree, if_pos hfirst,
    secondOfFour_encoded hlow hhigh, isTail_tailByte, if_true, tailBits_tailByte, hvalue]

/-! ### Characters and texts -/

/-- The bytes of a character are read as that character, whatever stands behind them. -/
theorem firstChar_encoded (c : Char) : ∃ first tail, String.utf8EncodeChar c = first :: tail ∧
    ∀ rest, firstChar first (tail ++ rest) = (some c, tail.length) := by
  have hself : Char.ofNat c.val.toNat = c := Char.ofNat_toNat c
  have hvalid : c.val.toNat < 55296 ∨ 57343 < c.val.toNat ∧ c.val.toNat < 1114112 := c.valid
  unfold String.utf8EncodeChar
  generalize c.val.toNat = v at hself hvalid ⊢
  simp only
  by_cases hone : v ≤ 127
  · rw [if_pos hone]
    exact ⟨_, _, rfl, fun rest => hself ▸ firstChar_one hone rest⟩
  rw [if_neg hone]
  by_cases htwo : v ≤ 2047
  · rw [if_pos htwo]
    exact ⟨_, _, rfl, fun rest => hself ▸ firstChar_two (by omega) htwo rest⟩
  rw [if_neg htwo]
  by_cases hthree : v ≤ 65535
  · rw [if_pos hthree]
    exact ⟨_, _, rfl, fun rest => hself ▸ firstChar_three (by omega) (by omega) hthree rest⟩
  · rw [if_neg hthree]
    exact ⟨_, _, rfl, fun rest => hself ▸ firstChar_four (by omega) (by omega) rest⟩

/-- A byte of seven bits is written for its own character only. -/
theorem eq_of_mem_encodeChar {b : UInt8} (hb : b.toNat < 128) {c : Char}
    (h : b ∈ String.utf8EncodeChar c) : c = Char.ofNat b.toNat := by
  have hself : Char.ofNat c.val.toNat = c := Char.ofNat_toNat c
  have hvalid : c.val.toNat < 55296 ∨ 57343 < c.val.toNat ∧ c.val.toNat < 1114112 := c.valid
  have hlarge : ∀ {n : Nat}, n < 256 → 128 ≤ n → b ≠ UInt8.ofNat n := by
    rintro n hn hlow rfl
    rw [toNat_byte hn] at hb
    omega
  unfold String.utf8EncodeChar at h
  generalize c.val.toNat = v at hself hvalid h
  simp only at h
  repeat' split at h
  · obtain rfl := List.mem_singleton.1 h
    rw [toNat_byte (by omega), hself]
  · simp only [List.mem_cons, List.not_mem_nil, or_false] at h
    obtain h | h := h <;> exact absurd h (hlarge (by omega) (by omega))
  · simp only [List.mem_cons, List.not_mem_nil, or_false] at h
    obtain h | h | h := h <;> exact absurd h (hlarge (by omega) (by omega))
  · simp only [List.mem_cons, List.not_mem_nil, or_false] at h
    obtain h | h | h | h := h <;> exact absurd h (hlarge (by omega) (by omega))

theorem encodeChar_ne_nil (c : Char) : String.utf8EncodeChar c ≠ [] := by
  obtain ⟨first, tail, hbytes, -⟩ := firstChar_encoded c
  simp [hbytes]

/-- Bytes that a character has used up are passed over. -/
theorem charsFrom_skip (used rest : List UInt8) :
    charsFrom used.length (used ++ rest) = charsFrom 0 rest := by
  induction used with
  | nil => rfl
  | cons b used ih => exact ih

theorem charsFrom_encode (text : List Char) : charsFrom 0 (encode text) = text.map some := by
  induction text with
  | nil => rfl
  | cons c rest ih =>
      obtain ⟨first, tail, hbytes, hread⟩ := firstChar_encoded c
      have hsplit : encode (c :: rest) = first :: (tail ++ encode rest) := by
        rw [encode, List.flatMap_cons, hbytes]
        rfl
      rw [hsplit, charsFrom, hread]
      show some c :: charsFrom tail.length (tail ++ encode rest) = (c :: rest).map some
      rw [charsFrom_skip, ih, List.map_cons]

/-- **A text is read back from its bytes.** -/
theorem decode_encode (text : List Char) : decode (encode text) = text := by
  rw [decode, charsFrom_encode, List.map_map]
  exact List.map_id' text

/-! ### Bytes that are a text -/

theorem toNat_charOfNat {v : Nat} (h : v < 55296 ∨ 57343 < v ∧ v < 1114112) :
    (Char.ofNat v).val.toNat = v := by
  rw [Char.ofNat, dif_pos h]
  rfl

theorem isTail_iff {b : UInt8} : isTail b = true ↔ 128 ≤ b.toNat ∧ b.toNat ≤ 191 := by
  simp [isTail, UInt8.le_iff_toNat_le]

/-- A first byte and its tail bytes are written for the character that they are read as. -/
theorem encoded_one {b : UInt8} (hb : b.toNat < 128) :
    String.utf8EncodeChar (Char.ofNat b.toNat) = [b] := by
  unfold String.utf8EncodeChar
  simp only [toNat_charOfNat (v := b.toNat) (by omega)]
  rw [if_pos (by omega)]
  simp

theorem encoded_two {b c : UInt8} (hb : 194 ≤ b.toNat ∧ b.toNat ≤ 223) (hc : isTail c = true) :
    String.utf8EncodeChar (Char.ofNat (b.toNat % 32 * 64 + tailBits c)) = [b, c] := by
  rw [isTail_iff] at hc
  unfold tailBits String.utf8EncodeChar
  simp only [toNat_charOfNat (v := b.toNat % 32 * 64 + c.toNat % 64) (by omega)]
  rw [if_neg (by omega), if_pos (by omega)]
  simp only [List.cons.injEq, and_true, ← UInt8.toNat_inj]
  constructor
  · rw [toNat_byte (by omega)]
    omega
  · rw [toNat_byte (by omega)]
    omega

/-- The second of three bytes is a tail byte, of which the first byte may leave out some. -/
theorem secondOfThree_cases {b c : UInt8} (h : secondOfThree b c = true) :
    128 ≤ c.toNat ∧ c.toNat ≤ 191 ∧ (b.toNat = 224 → 160 ≤ c.toNat) ∧
      (b.toNat = 237 → c.toNat ≤ 159) := by
  simp only [secondOfThree, ← UInt8.toNat_inj, UInt8.le_iff_toNat_le, UInt8.reduceToNat] at h
  split at h
  · simp only [Bool.and_eq_true, decide_eq_true_eq] at h
    omega
  · split at h
    · simp only [Bool.and_eq_true, decide_eq_true_eq] at h
      omega
    · rw [isTail_iff] at h
      omega

theorem encoded_three {b c d : UInt8} (hb : 224 ≤ b.toNat ∧ b.toNat ≤ 239)
    (hc : secondOfThree b c = true) (hd : isTail d = true) :
    String.utf8EncodeChar (Char.ofNat ((b.toNat % 16 * 64 + tailBits c) * 64 + tailBits d)) =
      [b, c, d] := by
  obtain ⟨hlow, hhigh, hshorter, hsurrogate⟩ := secondOfThree_cases hc
  rw [isTail_iff] at hd
  unfold tailBits String.utf8EncodeChar
  simp only [toNat_charOfNat (v := (b.toNat % 16 * 64 + c.toNat % 64) * 64 + d.toNat % 64)
    (by omega)]
  rw [if_neg (by omega), if_neg (by omega), if_pos (by omega)]
  simp only [List.cons.injEq, and_true, ← UInt8.toNat_inj]
  refine ⟨?_, ?_, ?_⟩ <;> rw [toNat_byte (by omega)] <;> omega

/-- The second of four bytes is a tail byte, of which the first byte may leave out some. -/
theorem secondOfFour_cases {b c : UInt8} (h : secondOfFour b c = true) :
    128 ≤ c.toNat ∧ c.toNat ≤ 191 ∧ (b.toNat = 240 → 144 ≤ c.toNat) ∧
      (b.toNat = 244 → c.toNat ≤ 143) := by
  simp only [secondOfFour, ← UInt8.toNat_inj, UInt8.le_iff_toNat_le, UInt8.reduceToNat] at h
  split at h
  · simp only [Bool.and_eq_true, decide_eq_true_eq] at h
    omega
  · split at h
    · simp only [Bool.and_eq_true, decide_eq_true_eq] at h
      omega
    · rw [isTail_iff] at h
      omega

theorem encoded_four {b c d e : UInt8} (hb : 240 ≤ b.toNat ∧ b.toNat ≤ 244)
    (hc : secondOfFour b c = true) (hd : isTail d = true) (he : isTail e = true) :
    String.utf8EncodeChar (Char.ofNat
      (((b.toNat % 8 * 64 + tailBits c) * 64 + tailBits d) * 64 + tailBits e)) = [b, c, d, e] := by
  obtain ⟨hlow, hhigh, hshorter, hlast⟩ := secondOfFour_cases hc
  rw [isTail_iff] at hd he
  unfold tailBits String.utf8EncodeChar
  simp only [toNat_charOfNat
    (v := ((b.toNat % 8 * 64 + c.toNat % 64) * 64 + d.toNat % 64) * 64 + e.toNat % 64) (by omega)]
  rw [if_neg (by omega), if_neg (by omega), if_neg (by omega)]
  simp only [List.cons.injEq, and_true, ← UInt8.toNat_inj]
  refine ⟨?_, ?_, ?_, ?_⟩ <;> rw [toNat_byte (by omega)] <;> omega

/-- A character that is read is written with the bytes that it takes up. -/
theorem encoded_of_firstChar {b : UInt8} {rest : List UInt8} {c : Char} {size : Nat}
    (h : firstChar b rest = (some c, size)) :
    ∃ tail behind, rest = tail ++ behind ∧ tail.length = size ∧
      String.utf8EncodeChar c = b :: tail := by
  simp only [firstChar, UInt8.lt_iff_toNat_lt, UInt8.le_iff_toNat_le, UInt8.reduceToNat,
    Bool.and_eq_true, decide_eq_true_eq] at h
  repeat' split at h
  all_goals cases h
  · rename_i hb
    exact ⟨[], rest, rfl, rfl, encoded_one hb⟩
  · rename_i hb _ c behind hc
    exact ⟨[c], behind, rfl, rfl, encoded_two hb hc⟩
  · rename_i hb _ c hc _ d behind hd
    exact ⟨[c, d], behind, rfl, rfl, encoded_three hb hc hd⟩
  · rename_i hb _ c hc _ d hd _ e behind he
    exact ⟨[c, d, e], behind, rfl, rfl, encoded_four hb hc hd he⟩

/-- **Bytes that are a text are the bytes of that text.** -/
theorem encode_decode {bytes : List UInt8} (h : isText bytes = true) :
    encode (decode bytes) = bytes := by
  induction hlength : bytes.length using Nat.strongRecOn generalizing bytes with
  | ind n ih =>
      cases bytes with
      | nil => rfl
      | cons b rest =>
          obtain ⟨c, size, hread⟩ : ∃ c size, firstChar b rest = (c, size) := ⟨_, _, rfl⟩
          rw [isText, charsFrom, hread] at h
          obtain ⟨hc, hrest⟩ := Bool.and_eq_true_iff.1 (List.all_cons ▸ h)
          obtain ⟨c, rfl⟩ := Option.isSome_iff_exists.1 hc
          obtain ⟨tail, behind, rfl, rfl, hencoded⟩ := encoded_of_firstChar hread
          rw [charsFrom_skip] at hrest
          have hbehind : encode (decode behind) = behind := by
            refine ih behind.length ?_ hrest rfl
            simp only [List.length_cons, List.length_append] at hlength
            omega
          calc encode (decode (b :: (tail ++ behind)))
              = encode (c :: decode behind) := by
                rw [decode, charsFrom, hread]
                simp only [charsFrom_skip]
                rfl
            _ = b :: (tail ++ behind) := by
                rw [encode, List.flatMap_cons, hencoded, ← encode, hbehind]
                rfl

end CheckMatrix.Text
