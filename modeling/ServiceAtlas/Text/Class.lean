/-
Character classes that reach beyond ASCII.

Each class decides ASCII by arithmetic and looks the rest up in its table of ranges.
-/
import ServiceAtlas.Text.WordTable
import ServiceAtlas.Text.IdentifierTable
import ServiceAtlas.Text.PrintableTable
import ServiceAtlas.Text.DigitTable

namespace ServiceAtlas.Text

/-- The number lies in one of the ranges, which are given in ascending order. -/
def inRanges (n : Nat) : List (Nat × Nat) → Bool
  | [] => false
  | (first, last) :: ranges => first ≤ n && (n ≤ last || inRanges n ranges)

/-- The ASCII letters. -/
def isAsciiLetter (c : Char) : Bool :=
  ('a' ≤ c && c ≤ 'z') || ('A' ≤ c && c ≤ 'Z')

/-- The ASCII digits. -/
def isAsciiDigit (c : Char) : Bool :=
  '0' ≤ c && c ≤ '9'

/-- Letters, digits and other numbers of any script, and the underscore. -/
def isWordChar (c : Char) : Bool :=
  isAsciiLetter c || isAsciiDigit c || c == '_'
    || (128 ≤ c.toNat && inRanges c.toNat alphanumericRanges)

/-- Characters that may begin a name: letters of any script, underscore and dollar sign. -/
def isNameStart (c : Char) : Bool :=
  isAsciiLetter c || c == '_' || c == '$'
    || (128 ≤ c.toNat && inRanges c.toNat identifierStartRanges)

/-- Characters that may continue a name; the cent sign counts, as it does in no other class. -/
def isNamePart (c : Char) : Bool :=
  isNameStart c || isAsciiDigit c || c.toNat == 0xA2
    || (128 ≤ c.toNat && inRanges c.toNat identifierPartRanges)

/-- Characters that are shown as themselves in a quoted text. -/
def isPrintable (c : Char) : Bool :=
  if c.toNat < 128 then 32 ≤ c.toNat && c.toNat ≠ 127 else inRanges c.toNat printableRanges

/-- The value of a code point among the ten that start at one of the zeros. -/
def digitFrom (n : Nat) : List Nat → Option Nat
  | [] => none
  | first :: rest => if first ≤ n ∧ n < first + 10 then some (n - first) else digitFrom n rest

/-- The value of a decimal digit of any script. -/
def digitValue? (c : Char) : Option Nat :=
  if isAsciiDigit c then some (c.toNat - 48)
  else if c.toNat < 128 then none
  else digitFrom c.toNat digitZeros

end ServiceAtlas.Text
