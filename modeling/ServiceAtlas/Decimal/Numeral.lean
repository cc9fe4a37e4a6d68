/-
Reading decimal numerals.

Both readers skip padding at the ends and accept the decimal digits of any script.  An
integer is a sign and digits, at most `maxIntegerDigits` of them; a real numeral may have a
point and an exponent, or be one of the words for infinity and for no number.
-/
import ServiceAtlas.Text.Blank
import ServiceAtlas.Text.Class
import ServiceAtlas.Decimal.Binary64

namespace ServiceAtlas.Numeral

open ServiceAtlas.Text

/-- Longer integer numerals are refused. -/
def maxIntegerDigits : Nat := 4300

/-- White space that may stand around a numeral: any but the four control separators. -/
def isPadding (c : Char) : Bool :=
  isBlank c && !(28 ≤ c.toNat && c.toNat ≤ 31)

/-- The text without the padding around it. -/
def unpadded (cs : List Char) : List Char :=
  trimWhere isPadding cs

/-- The number that a list of digit values denotes. -/
def ofDigits (ds : List Nat) : Nat :=
  ds.foldl (fun n d => 10 * n + d) 0

/-- The values of the leading decimal digits, and the rest of the text. -/
def leadingDigits : List Char → List Nat × List Char
  | [] => ([], [])
  | c :: cs =>
    match digitValue? c with
    | some d =>
      let (ds, rest) := leadingDigits cs
      (d :: ds, rest)
    | none => ([], c :: cs)

/-- Whether the text begins with a minus, and the text after its sign if it has one. -/
def takeSign : List Char → Bool × List Char
  | '-' :: cs => (true, cs)
  | '+' :: cs => (false, cs)
  | cs => (false, cs)

/-- Read an integer numeral. -/
def integer? (cs : List Char) : Option Int :=
  let (negative, body) := takeSign (unpadded cs)
  match leadingDigits body with
  | ([], _) => none
  | (ds, []) =>
    if maxIntegerDigits < ds.length then none
    else
      let n : Int := ofDigits ds
      some (if negative then -n else n)
  | (_, _ :: _) => none

/-- The exponent part of a real numeral; an absent one is zero. -/
def exponent? : List Char → Option Int
  | [] => some 0
  | c :: cs =>
    if c = 'e' ∨ c = 'E' then
      let (negative, body) := takeSign cs
      match leadingDigits body with
      | (d :: ds, []) =>
        let n : Int := ofDigits (d :: ds)
        some (if negative then -n else n)
      | _ => none
    else none

/-- Digits before and after the point, and what follows them. -/
def mantissa (cs : List Char) : List Nat × List Nat × List Char :=
  match leadingDigits cs with
  | (whole, '.' :: rest) =>
    let (fraction, rest) := leadingDigits rest
    (whole, fraction, rest)
  | (whole, rest) => (whole, [], rest)

/-- Read an unsigned real numeral and give it the sign. -/
def unsignedReal? (negative : Bool) (cs : List Char) : Option Binary64 :=
  let word := cs.map Char.toLower
  if word = "inf".toList ∨ word = "infinity".toList then some (.infinite negative)
  else if word = "nan".toList then some .nan
  else
    match mantissa cs with
    | ([], [], _) => none
    | (whole, fraction, rest) =>
      (exponent? rest).map fun e =>
        .ofScientific negative (ofDigits (whole ++ fraction)) (e - (fraction.length : Int))

/-- Read a real numeral as the nearest binary64 number. -/
def real? (cs : List Char) : Option Binary64 :=
  let (negative, body) := takeSign (unpadded cs)
  unsignedReal? negative body

/-- An integer in decimal notation. -/
def integerText (n : Int) : List Char :=
  if n < 0 then '-' :: Nat.toDigits 10 n.natAbs else Nat.toDigits 10 n.natAbs

end ServiceAtlas.Numeral
