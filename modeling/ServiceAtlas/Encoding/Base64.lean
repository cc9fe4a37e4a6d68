/-
Bytes written in base 64.

Characters outside the alphabet are passed over, line breaks among them.  Four digits make
three bytes; two or three digits at the end need the padding that makes four of them.
-/

namespace ServiceAtlas.Base64

/-- The value of a digit. -/
def digit? (c : Char) : Option Nat :=
  let n := c.toNat
  if 'A' ≤ c ∧ c ≤ 'Z' then some (n - 65)
  else if 'a' ≤ c ∧ c ≤ 'z' then some (n - 71)
  else if '0' ≤ c ∧ c ≤ '9' then some (n + 4)
  else if c = '+' then some 62
  else if c = '/' then some 63
  else none

/-- The bytes of digits, of which `pending` are read but not yet part of a byte. -/
def decodeFrom (pending : List Nat) : List Char → Option (List UInt8)
  | [] => if pending.isEmpty then some [] else none
  | c :: cs =>
    if c = '=' then
      match pending, cs.head? with
      | [a, b], some '=' => some [.ofNat (a * 4 + b / 16)]
      | [a, b, d], _ => some [.ofNat (a * 4 + b / 16), .ofNat (b % 16 * 16 + d / 4)]
      | _, _ => decodeFrom pending cs
    else
      match digit? c with
      | none => decodeFrom pending cs
      | some e =>
        match pending with
        | [a, b, d] =>
          (decodeFrom [] cs).map fun bs =>
            .ofNat (a * 4 + b / 16) :: .ofNat (b % 16 * 16 + d / 4) :: .ofNat (d % 4 * 64 + e) :: bs
        | _ => decodeFrom (pending ++ [e]) cs

/-- The bytes that a text denotes, if it is complete. -/
def decode? (cs : List Char) : Option (List UInt8) :=
  decodeFrom [] cs

end ServiceAtlas.Base64
