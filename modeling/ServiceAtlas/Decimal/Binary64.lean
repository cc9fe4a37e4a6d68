/-
Binary floating point numbers of 64 bits, as exact values.

A finite number is a sign, a significand below `2 ^ 53` and a power of two; everything is
computed in natural numbers, so what a number stands for can be reasoned about.  The main
function is `ofRatio`, which rounds a quotient to the nearest number and goes to the even
significand when two are equally near.
-/

namespace ServiceAtlas

/-- A binary64 number.  `finite negative m e` stands for `m * 2 ^ e` with the sign. -/
inductive Binary64 where
  | finite (negative : Bool) (significand : Nat) (exponent : Int)
  | infinite (negative : Bool)
  | nan
  deriving DecidableEq

namespace Binary64

/-- Significands have at most this many bits. -/
def precision : Nat := 53

/-- The exponent of the subnormal numbers, and the least one. -/
def minExponent : Int := -1074

/-- The exponent of the largest finite numbers. -/
def maxExponent : Int := 971

/-- Zero with a sign. -/
def zero (negative : Bool) : Binary64 :=
  finite negative 0 minExponent

/-- A quotient rounded to the nearest natural number, a half going to the even one. -/
def roundQuotient (num den : Nat) : Nat :=
  let q := num / den
  let r := num % den
  if den < 2 * r then q + 1
  else if 2 * r = den then q + q % 2
  else q

/-- Whether `2 ^ e` is at most the quotient. -/
def powerAtMost (e : Int) (num den : Nat) : Bool :=
  if 0 ≤ e then Nat.pow 2 e.toNat * den ≤ num else den ≤ num * Nat.pow 2 (-e).toNat

/-- The largest power of two at most a positive quotient, by its exponent. -/
def floorLog2 (num den : Nat) : Int :=
  let guess : Int := (Nat.log2 num : Int) - (Nat.log2 den : Int)
  if powerAtMost guess num den then guess else guess - 1

/-- The nearest number to a quotient of natural numbers, with the given sign. -/
def ofRatio (negative : Bool) (num den : Nat) : Binary64 :=
  if num = 0 then zero negative
  else
    let e := max minExponent (floorLog2 num den - (precision - 1 : Nat))
    let m :=
      if 0 ≤ e then roundQuotient num (den * Nat.pow 2 e.toNat)
      else roundQuotient (num * Nat.pow 2 (-e).toNat) den
    let (m, e) := if m = Nat.pow 2 precision then (Nat.pow 2 (precision - 1), e + 1) else (m, e)
    if maxExponent < e then infinite negative else finite negative m e

/-- The number of decimal digits of a natural number; zero has one. -/
def decimalLength (n : Nat) : Nat :=
  (Nat.toDigits 10 n).length

/-- The nearest number to `digits * 10 ^ exponent`.  Far outside the range of the type the
answer is known without computing the power. -/
def ofScientific (negative : Bool) (digits : Nat) (exponent : Int) : Binary64 :=
  if digits = 0 then zero negative
  else
    let magnitude := exponent + decimalLength digits
    if 400 < magnitude then infinite negative
    else if magnitude < -400 then zero negative
    else if 0 ≤ exponent then ofRatio negative (digits * Nat.pow 10 exponent.toNat) 1
    else ofRatio negative digits (Nat.pow 10 (-exponent).toNat)

/-- The nearest number to an integer. -/
def ofInt (n : Int) : Binary64 :=
  ofRatio (n < 0) n.natAbs 1

/-- The integer that the number is equal to, if it is one. -/
def toInt? : Binary64 → Option Int
  | finite negative m e =>
    let magnitude? : Option Nat :=
      if 0 ≤ e then some (m * Nat.pow 2 e.toNat)
      else if m % Nat.pow 2 (-e).toNat = 0 then some (m / Nat.pow 2 (-e).toNat)
      else none
    magnitude?.map fun n => if negative then -(n : Int) else n
  | _ => none

/-- The nearest number to `m * 2 ^ e`, with the given sign. -/
def ofScaled (negative : Bool) (m : Nat) (e : Int) : Binary64 :=
  if 0 ≤ e then ofRatio negative (m * Nat.pow 2 e.toNat) 1
  else ofRatio negative m (Nat.pow 2 (-e).toNat)

/-- The number with the other sign. -/
def negated : Binary64 → Binary64
  | finite negative m e => finite (!negative) m e
  | infinite negative => infinite (!negative)
  | nan => nan

/-- The nearest number to a sum. -/
def add : Binary64 → Binary64 → Binary64
  | finite n m e, finite n' m' e' =>
    let least := min e e'
    let units (negative : Bool) (m : Nat) (e : Int) : Int :=
      (if negative then -1 else 1) * (m * Nat.pow 2 (e - least).toNat : Nat)
    let sum := units n m e + units n' m' e'
    if sum = 0 then zero (n && n') else ofScaled (sum < 0) sum.natAbs least
  | infinite n, infinite n' => if n = n' then infinite n else nan
  | infinite n, finite .. => infinite n
  | finite .., infinite n => infinite n
  | nan, _ => nan
  | _, nan => nan

/-- The nearest number to a product. -/
def mul : Binary64 → Binary64 → Binary64
  | finite n m e, finite n' m' e' => ofScaled (n ^^ n') (m * m') (e + e')
  | infinite n, infinite n' => infinite (n ^^ n')
  | infinite n, finite n' m _ => if m = 0 then nan else infinite (n ^^ n')
  | finite n m _, infinite n' => if m = 0 then nan else infinite (n ^^ n')
  | nan, _ => nan
  | _, nan => nan

/-- Neither infinite nor the value that is not a number. -/
def isFinite : Binary64 → Bool
  | finite .. => true
  | _ => false

end Binary64

end ServiceAtlas
