/-
Numbers in YAML texts.

Digits may be parted by underscores.  An integer is binary, octal, decimal or hexadecimal,
or a list of parts to base sixty, the first of them without a leading zero; a number with a
point may be such a list as well.  What looks like a number is decided first, on the text
alone, and what number it is afterwards.  A text that a tag calls a number need not look like
one, and more of them denote numbers than look like it.
-/
import ServiceAtlas.Text.Split
import ServiceAtlas.Decimal.Numeral
import ServiceAtlas.Yaml.Token

namespace ServiceAtlas.Yaml.Numeral

open ServiceAtlas.Text

/-! ### What looks like a number -/

/-- The text without its sign. -/
def unsigned (cs : List Char) : List Char :=
  (ServiceAtlas.Numeral.takeSign cs).2

/-- Digits of a class and underscores. -/
def isDigits (p : Char → Bool) (cs : List Char) : Bool :=
  cs.all fun c => p c || c = '_'

/-- A decimal digit first, and then digits and underscores. -/
def isWhole : List Char → Bool
  | c :: cs => isAsciiDigit c && isDigits isAsciiDigit cs
  | [] => false

/-- One or two digits that denote less than sixty. -/
def isSixtieth : List Char → Bool
  | [c] => isAsciiDigit c
  | [c, d] => '0' ≤ c && c ≤ '5' && isAsciiDigit d
  | _ => false

/-- A hexadecimal digit. -/
def isHexDigit (c : Char) : Bool :=
  isAsciiDigit c || ('a' ≤ c && c ≤ 'f') || ('A' ≤ c && c ≤ 'F')

/-- An unsigned integer without a point. -/
def looksUnsignedInteger : List Char → Bool
  | '0' :: 'b' :: c :: cs => isDigits (fun d => d = '0' || d = '1') (c :: cs)
  | '0' :: 'x' :: c :: cs => isDigits isHexDigit (c :: cs)
  | ['0'] => true
  | '0' :: cs => isDigits (fun d => '0' ≤ d && d ≤ '7') cs
  | cs =>
    match pieces ':' cs with
    | whole :: parts => isWhole whole && parts.all isSixtieth
    | [] => false

/-- The text looks like an integer. -/
def looksInteger (cs : List Char) : Bool :=
  looksUnsignedInteger (unsigned cs)

/-- An exponent with its sign, or nothing. -/
def isExponent : List Char → Bool
  | [] => true
  | e :: sign :: c :: cs =>
    (e = 'e' || e = 'E') && (sign = '-' || sign = '+') && (c :: cs).all isAsciiDigit
  | _ => false

/-- Digits behind a point, and an exponent. -/
def isFraction (cs : List Char) : Bool :=
  isExponent (cs.dropWhile fun c => isAsciiDigit c || c = '_')

/-- A number with a point. -/
def looksReal (cs : List Char) : Bool :=
  let body := unsigned cs
  let isSigned := body.length < cs.length
  match body with
  | '.' :: word =>
    if word.head?.any isAsciiDigit then !isSigned && isFraction word
    else
      (["inf", "Inf", "INF"].contains (String.ofList word))
        || (!isSigned && ["nan", "NaN", "NAN"].contains (String.ofList word))
  | _ =>
    match cut '.' body with
    | (_, none) => false
    | (front, some fraction) =>
      match pieces ':' front with
      | [whole] => isWhole whole && isFraction fraction
      | whole :: parts =>
        isWhole whole && parts.all isSixtieth && isDigits isAsciiDigit fraction
      | [] => false

/-! ### What number it is -/

/-- The text without underscores. -/
def withoutUnderscores (cs : List Char) : List Char :=
  cs.filter (· ≠ '_')

/-- A base, and the letter that stands for it in the mark of its numerals. -/
structure Base where
  size : Nat
  letter : Char

namespace Base

def binary : Base := ⟨2, 'b'⟩

def octal : Base := ⟨8, 'o'⟩

def hexadecimal : Base := ⟨16, 'x'⟩

/-- The value of a digit: that of a decimal digit of any script, or of a letter. -/
def digit? (b : Base) (c : Char) : Option Nat :=
  let letter := c.toLower
  let n? := if 'a' ≤ letter && letter ≤ 'z' then some (letter.toNat - 87) else digitValue? c
  n?.filter (· < b.size)

/-- The text without the mark of the base, a zero and its letter. -/
def unmarked (b : Base) : List Char → List Char
  | zero :: c :: cs =>
    if digitValue? zero = some 0 && c.toLower = b.letter then cs else zero :: c :: cs
  | cs => cs

/-- The number that a text of digits denotes. -/
def ofDigits? (b : Base) (cs : List Char) : Option Nat :=
  if cs.isEmpty then none
  else cs.foldlM (fun n c => (b.digit? c).map (b.size * n + ·)) 0

/-- The integer that a text denotes, which may have padding, a sign and the mark. -/
def integer? (b : Base) (cs : List Char) : Option Int :=
  let (negative, body) := ServiceAtlas.Numeral.takeSign (ServiceAtlas.Numeral.unpadded cs)
  (b.ofDigits? (b.unmarked body)).map fun n => if negative then -n else n

end Base

/-- The number that parts to base sixty denote, given that of the parts before them. -/
def sixtieths? : Int → List (List Char) → Option Int
  | n, [] => some n
  | n, p :: ps => (ServiceAtlas.Numeral.integer? p).bind fun m => sixtieths? (60 * n + m) ps

/-- The integer that a text behind its sign denotes.  Behind a mark the text counts as a numeral
to its base, which may have a sign and a mark of its own. -/
def unsignedInteger? : List Char → Option Int
  | ['0'] => some 0
  | '0' :: 'b' :: cs => Base.binary.integer? cs
  | '0' :: 'x' :: cs => Base.hexadecimal.integer? cs
  | '0' :: cs => Base.octal.integer? ('0' :: cs)
  | cs =>
    if cs.contains ':' then sixtieths? 0 (pieces ':' cs)
    else ServiceAtlas.Numeral.integer? cs

/-- The integer that a text denotes. -/
def integer (text : List Char) : Except Fault Int :=
  let (negative, body) := ServiceAtlas.Numeral.takeSign (withoutUnderscores text)
  if body.isEmpty then .error .emptyNumeral
  else
    match unsignedInteger? body with
    | some n => .ok (if negative then -n else n)
    | none => .error .numeral

/-- The sum of parts to base sixty, the last one first and with the given weight.  Every step
is rounded. -/
def sixtiethsSum : Nat → Binary64 → List Binary64 → Except Fault Binary64
  | _, sum, [] => .ok sum
  | weight, sum, part :: parts =>
    let factor := Binary64.ofInt weight
    if factor.isFinite then sixtiethsSum (60 * weight) (sum.add (part.mul factor)) parts
    else .error .numeralSize

/-- The number that a text behind its sign denotes. -/
def unsignedReal (body : List Char) : Except Fault Binary64 :=
  if body = ".inf".toList then .ok (.infinite false)
  else if body = ".nan".toList then .ok .nan
  else if body.contains ':' then
    match (pieces ':' body).mapM ServiceAtlas.Numeral.real? with
    | some parts => sixtiethsSum 1 (.zero false) parts.reverse
    | none => .error .numeral
  else
    match ServiceAtlas.Numeral.real? body with
    | some x => .ok x
    | none => .error .numeral

/-- The number that a text denotes. -/
def real (text : List Char) : Except Fault Binary64 :=
  let digits := (withoutUnderscores text).map Char.toLower
  if digits.isEmpty then .error .emptyNumeral
  else
    let (negative, body) := ServiceAtlas.Numeral.takeSign digits
    (unsignedReal body).map fun x => if negative then x.negated else x

end ServiceAtlas.Yaml.Numeral
