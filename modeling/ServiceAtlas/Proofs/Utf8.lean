/-
Bytes are a text exactly if they are written as one.

The decoder is a machine that knows, within a character, the range of the next byte and how many
follow it.  It is opened here once, at a first byte and at a further byte; after that characters
of one, two, three and four bytes are four equations about numbers.  The narrower ranges behind
four of the first bytes are what leaves each character its shortest form and surrogates none.
-/
import ServiceAtlas.Encoding.Utf8

namespace ServiceAtlas.Utf8

variable {b c d e : UInt8} {bs : Bytes} {cs : List Char}

/-! ### Characters as numbers -/

theorem toNat_lt (c : Char) : c.toNat < 0xD800 ∨ 0xDFFF < c.toNat ∧ c.toNat < 0x110000 :=
  c.valid

theorem toNat_ofNat_of_lt {n : Nat} (h : n < 0xD800 ∨ 0xDFFF < n ∧ n < 0x110000) :
    (Char.ofNat n).toNat = n := by
  have hvalid : n.isValidChar := h
  unfold Char.ofNat
  rw [dif_pos hvalid]
  rfl

theorem ofNat_eq_iff {n : Nat} (h : n < 256) : UInt8.ofNat n = b ↔ n = b.toNat := by
  rw [← UInt8.toNat_inj, UInt8.toNat_ofNat', Nat.mod_eq_of_lt h]

/-- A character of one byte. -/
theorem encodeChar_one {x : Char} (h : x.toNat < 0x80) : encodeChar x = [.ofNat x.toNat] := by
  unfold encodeChar
  rw [if_pos h]

/-- A character of two bytes. -/
theorem encodeChar_two {x : Char} (h : 0x80 ≤ x.toNat ∧ x.toNat < 0x800) :
    encodeChar x = [.ofNat (0xC0 + x.toNat / 64), .ofNat (0x80 + x.toNat % 64)] := by
  unfold encodeChar
  rw [if_neg (by omega), if_pos h.2]
  simp

/-- A character of three bytes. -/
theorem encodeChar_three {x : Char} (h : 0x800 ≤ x.toNat ∧ x.toNat < 0x10000) :
    encodeChar x = [.ofNat (0xE0 + x.toNat / 4096), .ofNat (0x80 + x.toNat / 64 % 64),
      .ofNat (0x80 + x.toNat % 64)] := by
  unfold encodeChar
  rw [if_neg (by omega), if_neg (by omega), if_pos h.2]
  simp

/-- A character of four bytes. -/
theorem encodeChar_four {x : Char} (h : 0x10000 ≤ x.toNat) :
    encodeChar x = [.ofNat (0xF0 + x.toNat / 262144), .ofNat (0x80 + x.toNat / 4096 % 64),
      .ofNat (0x80 + x.toNat / 64 % 64), .ofNat (0x80 + x.toNat % 64)] := by
  unfold encodeChar
  rw [if_neg (by omega), if_neg (by omega), if_neg (by omega)]
  simp

/-! ### Steps of the decoder -/

theorem ofFirst?_two {n : Nat} (h : 0xC2 ≤ n ∧ n ≤ 0xDF) :
    Pending.ofFirst? n = some ⟨n - 0xC0, 0x80, 0xBF, 0⟩ :=
  if_pos h

theorem ofFirst?_three {n : Nat} (h : 0xE0 ≤ n ∧ n ≤ 0xEF) :
    Pending.ofFirst? n = some ⟨n - 0xE0, if n = 0xE0 then 0xA0 else 0x80,
      if n = 0xED then 0x9F else 0xBF, 1⟩ := by
  unfold Pending.ofFirst?
  grind

theorem ofFirst?_four {n : Nat} (h : 0xF0 ≤ n ∧ n ≤ 0xF4) :
    Pending.ofFirst? n = some ⟨n - 0xF0, if n = 0xF0 then 0x90 else 0x80,
      if n = 0xF4 then 0x8F else 0xBF, 2⟩ := by
  unfold Pending.ofFirst?
  grind

theorem ofFirst?_none {n : Nat} (h : n < 0xC2 ∨ 0xF4 < n) : Pending.ofFirst? n = none := by
  unfold Pending.ofFirst?
  grind

theorem decodeFrom_ascii (hb : b.toNat < 0x80) (bs : Bytes) :
    decodeFrom none (b :: bs) = (Char.ofNat b.toNat :: ·) <$> decodeFrom none bs := by
  rw [decodeFrom, if_pos hb]

theorem decodeFrom_first {p : Pending} (hp : Pending.ofFirst? b.toNat = some p) (bs : Bytes) :
    decodeFrom none (b :: bs) = decodeFrom (some p) bs := by
  have hb : ¬b.toNat < 0x80 := by
    intro hb
    rw [ofFirst?_none (by omega)] at hp
    cases hp
  rw [decodeFrom, if_neg hb, hp]

theorem decodeFrom_last {bits least greatest : Nat} (hb : least ≤ b.toNat ∧ b.toNat ≤ greatest)
    (bs : Bytes) : decodeFrom (some ⟨bits, least, greatest, 0⟩) (b :: bs)
      = (Char.ofNat (64 * bits + b.toNat % 64) :: ·) <$> decodeFrom none bs := by
  rw [decodeFrom, if_pos hb]

theorem decodeFrom_further {bits least greatest k : Nat}
    (hb : least ≤ b.toNat ∧ b.toNat ≤ greatest) (bs : Bytes) :
    decodeFrom (some ⟨bits, least, greatest, k + 1⟩) (b :: bs)
      = decodeFrom (some ⟨64 * bits + b.toNat % 64, 0x80, 0xBF, k⟩) bs := by
  rw [decodeFrom, if_pos hb]

/-- Within a character a text goes on with a byte in range. -/
theorem exists_of_decodeFrom_some {p : Pending} (h : decodeFrom (some p) bs = .ok cs) :
    ∃ b rest, bs = b :: rest ∧ p.least ≤ b.toNat ∧ b.toNat ≤ p.greatest := by
  cases bs with
  | nil => cases h
  | cons b rest =>
      rw [decodeFrom] at h
      split at h
      · rename_i hb
        exact ⟨b, rest, rfl, hb⟩
      · cases h

theorem cons_of_map_eq_ok {x : Char} {r : Except Defect (List Char)}
    (h : (x :: ·) <$> r = .ok cs) : ∃ rest, cs = x :: rest ∧ r = .ok rest := by
  cases r with
  | error d => cases h
  | ok rest =>
      cases h
      exact ⟨rest, rfl, rfl⟩

/-! ### Reading what is written -/

theorem toNat_byte {n : Nat} (h : n < 256) : (UInt8.ofNat n).toNat = n := by
  rw [UInt8.toNat_ofNat', Nat.mod_eq_of_lt h]

/-- A written character is read, whatever follows it. -/
theorem decodeFrom_encodeChar (x : Char) (rest : Bytes) :
    decodeFrom none (encodeChar x ++ rest) = (x :: ·) <$> decodeFrom none rest := by
  have hlt := toNat_lt x
  by_cases h1 : x.toNat < 0x80
  · rw [encodeChar_one h1, List.singleton_append, decodeFrom_ascii (by rw [toNat_byte] <;> omega),
      toNat_byte (by omega), Char.ofNat_toNat]
  by_cases h2 : x.toNat < 0x800
  · have hnumber : 64 * (0xC0 + x.toNat / 64 - 0xC0) + (0x80 + x.toNat % 64) % 64 = x.toNat := by
      omega
    rw [encodeChar_two ⟨by omega, h2⟩]
    simp only [List.cons_append, List.nil_append]
    rw [decodeFrom_first (ofFirst?_two (by rw [toNat_byte] <;> omega)),
      decodeFrom_last (by rw [toNat_byte] <;> omega), toNat_byte (by omega), toNat_byte (by omega),
      hnumber, Char.ofNat_toNat]
  by_cases h3 : x.toNat < 0x10000
  · have hnumber : 64 * (64 * (0xE0 + x.toNat / 4096 - 0xE0) + (0x80 + x.toNat / 64 % 64) % 64)
        + (0x80 + x.toNat % 64) % 64 = x.toNat := by omega
    rw [encodeChar_three ⟨by omega, h3⟩]
    simp only [List.cons_append, List.nil_append]
    rw [decodeFrom_first (ofFirst?_three (by rw [toNat_byte] <;> omega)),
      toNat_byte (n := 0xE0 + x.toNat / 4096) (by omega), decodeFrom_further,
      decodeFrom_last (by rw [toNat_byte] <;> omega), toNat_byte (by omega), toNat_byte (by omega),
      hnumber, Char.ofNat_toNat]
    rw [toNat_byte (by omega)]
    constructor <;> split <;> omega
  · have hnumber : 64 * (64 * (64 * (0xF0 + x.toNat / 262144 - 0xF0)
        + (0x80 + x.toNat / 4096 % 64) % 64) + (0x80 + x.toNat / 64 % 64) % 64)
        + (0x80 + x.toNat % 64) % 64 = x.toNat := by omega
    rw [encodeChar_four (by omega)]
    simp only [List.cons_append, List.nil_append]
    rw [decodeFrom_first (ofFirst?_four (by rw [toNat_byte] <;> omega)),
      toNat_byte (n := 0xF0 + x.toNat / 262144) (by omega), decodeFrom_further,
      decodeFrom_further (by rw [toNat_byte] <;> omega),
      decodeFrom_last (by rw [toNat_byte] <;> omega), toNat_byte (by omega), toNat_byte (by omega),
      toNat_byte (by omega), hnumber, Char.ofNat_toNat]
    rw [toNat_byte (by omega)]
    constructor <;> split <;> omega

theorem decode_encode (cs : List Char) : decode (encode cs) = .ok cs := by
  unfold decode encode
  induction cs with
  | nil => rfl
  | cons x rest ih =>
      rw [List.flatMap_cons, decodeFrom_encodeChar, ih]
      rfl

/-! ### Only what is written is read -/

theorem encodeChar_ofNat_one (hb : b.toNat < 0x80) : encodeChar (Char.ofNat b.toNat) = [b] := by
  have hnumber := toNat_ofNat_of_lt (n := b.toNat) (by omega)
  rw [encodeChar_one (by omega), hnumber, UInt8.ofNat_toNat]

theorem encodeChar_ofNat_two (hb : 0xC2 ≤ b.toNat ∧ b.toNat ≤ 0xDF)
    (hc : 0x80 ≤ c.toNat ∧ c.toNat ≤ 0xBF) :
    encodeChar (Char.ofNat (64 * (b.toNat - 0xC0) + c.toNat % 64)) = [b, c] := by
  have hnumber := toNat_ofNat_of_lt (n := 64 * (b.toNat - 0xC0) + c.toNat % 64) (by omega)
  rw [encodeChar_two (by omega), hnumber]
  simp only [List.cons.injEq, and_true]
  exact ⟨(ofNat_eq_iff (by omega)).mpr (by omega), (ofNat_eq_iff (by omega)).mpr (by omega)⟩

theorem encodeChar_ofNat_three (hb : 0xE0 ≤ b.toNat ∧ b.toNat ≤ 0xEF)
    (hc : (if b.toNat = 0xE0 then 0xA0 else 0x80) ≤ c.toNat ∧
      c.toNat ≤ if b.toNat = 0xED then 0x9F else 0xBF)
    (hd : 0x80 ≤ d.toNat ∧ d.toNat ≤ 0xBF) :
    encodeChar (Char.ofNat (64 * (64 * (b.toNat - 0xE0) + c.toNat % 64) + d.toNat % 64))
      = [b, c, d] := by
  have hleast : b.toNat = 0xE0 ∧ 0xA0 ≤ c.toNat ∨ b.toNat ≠ 0xE0 ∧ 0x80 ≤ c.toNat := by
    have hleast := hc.1
    split at hleast <;> omega
  have hgreatest : b.toNat = 0xED ∧ c.toNat ≤ 0x9F ∨ b.toNat ≠ 0xED ∧ c.toNat ≤ 0xBF := by
    have hgreatest := hc.2
    split at hgreatest <;> omega
  have hnumber := toNat_ofNat_of_lt
    (n := 64 * (64 * (b.toNat - 0xE0) + c.toNat % 64) + d.toNat % 64) (by omega)
  rw [encodeChar_three (by omega), hnumber]
  simp only [List.cons.injEq, and_true]
  exact ⟨(ofNat_eq_iff (by omega)).mpr (by omega), (ofNat_eq_iff (by omega)).mpr (by omega),
    (ofNat_eq_iff (by omega)).mpr (by omega)⟩

theorem encodeChar_ofNat_four (hb : 0xF0 ≤ b.toNat ∧ b.toNat ≤ 0xF4)
    (hc : (if b.toNat = 0xF0 then 0x90 else 0x80) ≤ c.toNat ∧
      c.toNat ≤ if b.toNat = 0xF4 then 0x8F else 0xBF)
    (hd : 0x80 ≤ d.toNat ∧ d.toNat ≤ 0xBF) (he : 0x80 ≤ e.toNat ∧ e.toNat ≤ 0xBF) :
    encodeChar (Char.ofNat (64 * (64 * (64 * (b.toNat - 0xF0) + c.toNat % 64) + d.toNat % 64)
      + e.toNat % 64)) = [b, c, d, e] := by
  have hleast : b.toNat = 0xF0 ∧ 0x90 ≤ c.toNat ∨ b.toNat ≠ 0xF0 ∧ 0x80 ≤ c.toNat := by
    have hleast := hc.1
    split at hleast <;> omega
  have hgreatest : b.toNat = 0xF4 ∧ c.toNat ≤ 0x8F ∨ b.toNat ≠ 0xF4 ∧ c.toNat ≤ 0xBF := by
    have hgreatest := hc.2
    split at hgreatest <;> omega
  have hnumber := toNat_ofNat_of_lt
    (n := 64 * (64 * (64 * (b.toNat - 0xF0) + c.toNat % 64) + d.toNat % 64) + e.toNat % 64)
    (by omega)
  rw [encodeChar_four (by omega), hnumber]
  simp only [List.cons.injEq, and_true]
  exact ⟨(ofNat_eq_iff (by omega)).mpr (by omega), (ofNat_eq_iff (by omega)).mpr (by omega),
    (ofNat_eq_iff (by omega)).mpr (by omega), (ofNat_eq_iff (by omega)).mpr (by omega)⟩

/-- A text that bytes are begins with a character, and they with the bytes of it. -/
theorem exists_of_decodeFrom_none (h : decodeFrom none (b :: bs) = .ok cs) :
    ∃ x rest cs', b :: bs = encodeChar x ++ rest ∧ cs = x :: cs' ∧
      decodeFrom none rest = .ok cs' := by
  by_cases h1 : b.toNat < 0x80
  · rw [decodeFrom_ascii h1] at h
    obtain ⟨cs', rfl, hrest⟩ := cons_of_map_eq_ok h
    exact ⟨_, bs, cs', by rw [encodeChar_ofNat_one h1]; rfl, rfl, hrest⟩
  by_cases h2 : 0xC2 ≤ b.toNat ∧ b.toNat ≤ 0xDF
  · rw [decodeFrom_first (ofFirst?_two h2)] at h
    obtain ⟨c, bs, rfl, hc⟩ := exists_of_decodeFrom_some h
    rw [decodeFrom_last hc] at h
    obtain ⟨cs', rfl, hrest⟩ := cons_of_map_eq_ok h
    exact ⟨_, bs, cs', by rw [encodeChar_ofNat_two h2 hc]; rfl, rfl, hrest⟩
  by_cases h3 : 0xE0 ≤ b.toNat ∧ b.toNat ≤ 0xEF
  · rw [decodeFrom_first (ofFirst?_three h3)] at h
    obtain ⟨c, bs, rfl, hc⟩ := exists_of_decodeFrom_some h
    rw [decodeFrom_further hc] at h
    obtain ⟨d, bs, rfl, hd⟩ := exists_of_decodeFrom_some h
    rw [decodeFrom_last hd] at h
    obtain ⟨cs', rfl, hrest⟩ := cons_of_map_eq_ok h
    exact ⟨_, bs, cs', by rw [encodeChar_ofNat_three h3 hc hd]; rfl, rfl, hrest⟩
  by_cases h4 : 0xF0 ≤ b.toNat ∧ b.toNat ≤ 0xF4
  · rw [decodeFrom_first (ofFirst?_four h4)] at h
    obtain ⟨c, bs, rfl, hc⟩ := exists_of_decodeFrom_some h
    rw [decodeFrom_further hc] at h
    obtain ⟨d, bs, rfl, hd⟩ := exists_of_decodeFrom_some h
    rw [decodeFrom_further hd] at h
    obtain ⟨e, bs, rfl, he⟩ := exists_of_decodeFrom_some h
    rw [decodeFrom_last he] at h
    obtain ⟨cs', rfl, hrest⟩ := cons_of_map_eq_ok h
    exact ⟨_, bs, cs', by rw [encodeChar_ofNat_four h4 hc hd he]; rfl, rfl, hrest⟩
  · rw [decodeFrom, if_neg h1, ofFirst?_none (by omega)] at h
    cases h

theorem encodeChar_ne_nil (x : Char) : encodeChar x ≠ [] := by
  unfold encodeChar
  extract_lets n further
  repeat' split
  all_goals exact List.cons_ne_nil _ _

theorem eq_encode_of_decodeFrom {bs : Bytes} {cs : List Char} (h : decodeFrom none bs = .ok cs) :
    bs = encode cs := by
  cases bs with
  | nil =>
      cases h
      rfl
  | cons b tail =>
      obtain ⟨x, rest, cs', hbytes, rfl, hrest⟩ := exists_of_decodeFrom_none h
      have hshorter : rest.length < (b :: tail).length := by
        have hpositive := List.length_pos_iff.mpr (encodeChar_ne_nil x)
        rw [hbytes, List.length_append]
        omega
      rw [hbytes, eq_encode_of_decodeFrom hrest, encode, encode, List.flatMap_cons]
termination_by bs.length

/-- **Bytes are read as a text exactly if they are how it is written.** -/
theorem decode_eq_ok_iff : decode bs = .ok cs ↔ encode cs = bs := by
  constructor
  · exact fun h => (eq_encode_of_decodeFrom h).symm
  · rintro rfl
    exact decode_encode cs

theorem encode_inj {ds : List Char} : encode cs = encode ds ↔ cs = ds := by
  rw [← decode_eq_ok_iff, decode_encode, Except.ok.injEq]
  exact eq_comm

theorem encode_ne_of_decode {defect : Defect} (h : decode bs = .error defect) (cs : List Char) :
    encode cs ≠ bs := by
  rintro rfl
  rw [decode_encode] at h
  cases h

end ServiceAtlas.Utf8
