/-
UTF-8.

A character is a first byte and as many further bytes as the first one says.  The second
byte of some characters has a narrower range than the others, which leaves each character
only its shortest form and surrogates none.  The three ways in which bytes fail to be a text
are told apart at the first byte that cannot go on with it.
-/

namespace ServiceAtlas.Utf8

/-- Bytes, as they are kept in files. -/
abbrev Bytes := List UInt8

/-- Why bytes are no text. -/
inductive Defect where
  | startByte
  | continuationByte
  | endOfData
  deriving DecidableEq

/-- The wording of a defect. -/
def Defect.message : Defect → String
  | startByte => "invalid start byte"
  | continuationByte => "invalid continuation byte"
  | endOfData => "unexpected end of data"

/-- A character that has begun: the bits read, the range of the next byte, and the number of
bytes that follow the next one. -/
structure Pending where
  bits : Nat
  least : Nat
  greatest : Nat
  further : Nat

/-- What a first byte of a longer character begins. -/
def Pending.ofFirst? (b : Nat) : Option Pending :=
  if 0xC2 ≤ b ∧ b ≤ 0xDF then some ⟨b - 0xC0, 0x80, 0xBF, 0⟩
  else if b = 0xE0 then some ⟨0, 0xA0, 0xBF, 1⟩
  else if b = 0xED then some ⟨0xD, 0x80, 0x9F, 1⟩
  else if 0xE1 ≤ b ∧ b ≤ 0xEF then some ⟨b - 0xE0, 0x80, 0xBF, 1⟩
  else if b = 0xF0 then some ⟨0, 0x90, 0xBF, 2⟩
  else if 0xF1 ≤ b ∧ b ≤ 0xF3 then some ⟨b - 0xF0, 0x80, 0xBF, 2⟩
  else if b = 0xF4 then some ⟨4, 0x80, 0x8F, 2⟩
  else none

/-- The text that bytes go on with, within a character or between two. -/
def decodeFrom : Option Pending → Bytes → Except Defect (List Char)
  | none, [] => .ok []
  | some _, [] => .error .endOfData
  | none, b :: bs =>
    if b.toNat < 0x80 then (Char.ofNat b.toNat :: ·) <$> decodeFrom none bs
    else
      match Pending.ofFirst? b.toNat with
      | none => .error .startByte
      | some p => decodeFrom (some p) bs
  | some p, b :: bs =>
    if p.least ≤ b.toNat ∧ b.toNat ≤ p.greatest then
      let bits := 64 * p.bits + b.toNat % 64
      match p.further with
      | 0 => (Char.ofNat bits :: ·) <$> decodeFrom none bs
      | k + 1 => decodeFrom (some ⟨bits, 0x80, 0xBF, k⟩) bs
    else .error .continuationByte

/-- The text that bytes are. -/
def decode (bs : Bytes) : Except Defect (List Char) :=
  decodeFrom none bs

/-- The bytes of a character. -/
def encodeChar (c : Char) : Bytes :=
  let n := c.toNat
  let further (k : Nat) : UInt8 := .ofNat (0x80 + n / Nat.pow 64 k % 64)
  if n < 0x80 then [.ofNat n]
  else if n < 0x800 then [.ofNat (0xC0 + n / 64), further 0]
  else if n < 0x10000 then [.ofNat (0xE0 + n / Nat.pow 64 2), further 1, further 0]
  else [.ofNat (0xF0 + n / Nat.pow 64 3), further 2, further 1, further 0]

/-- The bytes of a text. -/
def encode (cs : List Char) : Bytes :=
  cs.flatMap encodeChar

end ServiceAtlas.Utf8
