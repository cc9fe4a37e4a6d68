/-
Numbers in attribute texts.

The number is the first item of the text, read as a string literal if it is one.  Suffix
letters of numeric literals are dropped at the end and underscores everywhere.
-/
import ServiceAtlas.Declaration.Mark
import ServiceAtlas.Decimal.Numeral

namespace ServiceAtlas.Bound

open ServiceAtlas.Text

/-- The characters of a numeral, without the given suffix letters and without underscores. -/
def digits (suffixes : List Char) (raw : String) : List Char :=
  (trimEndWhere suffixes.contains (Mark.firstText raw).toList).filter (· ≠ '_')

/-- The integer that a text is a literal of. -/
def integer? (raw : String) : Option Int :=
  Numeral.integer? (digits ['l', 'L'] raw)

/-- The number that a text is a literal of. -/
def number? (raw : String) : Option Binary64 :=
  Numeral.real? (digits ['l', 'L', 'd', 'D', 'f', 'F'] raw)

end ServiceAtlas.Bound
