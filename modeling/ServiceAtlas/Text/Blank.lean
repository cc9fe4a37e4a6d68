/-
White space, and the words it separates.

"Blank" is the Unicode notion used wherever text is trimmed or taken apart: the
ASCII controls from tab to carriage return and from file to unit separator, the
space, the next-line control and every space separator and line or paragraph
separator.  `words` cuts at runs of blanks and `squeeze` puts single spaces back,
so a squeezed text is the one spelling shared by all texts with the same words.
-/

namespace ServiceAtlas.Text

/-- White space in the Unicode sense, control separators included. -/
def isBlank (c : Char) : Bool :=
  let n := c.toNat
  (9 ≤ n && n ≤ 13) || (28 ≤ n && n ≤ 32) || n == 0x85 || n == 0xA0 || n == 0x1680
    || (0x2000 ≤ n && n ≤ 0x200A) || n == 0x2028 || n == 0x2029 || n == 0x202F
    || n == 0x205F || n == 0x3000

/-- Drop every leading character of the class. -/
def trimStartWhere (p : Char → Bool) (cs : List Char) : List Char :=
  cs.dropWhile p

/-- Drop every trailing character of the class. -/
def trimEndWhere (p : Char → Bool) (cs : List Char) : List Char :=
  (cs.reverse.dropWhile p).reverse

/-- Drop the characters of the class at both ends. -/
def trimWhere (p : Char → Bool) (cs : List Char) : List Char :=
  trimEndWhere p (trimStartWhere p cs)

/-- Drop the blanks at both ends. -/
def trim (cs : List Char) : List Char :=
  trimWhere isBlank cs

/-- The maximal runs of non-blank characters, in order. -/
def words : List Char → List (List Char)
  | [] => []
  | c :: cs =>
    if isBlank c then words cs
    else
      match cs, words cs with
      | d :: _, w :: ws => if isBlank d then [c] :: w :: ws else (c :: w) :: ws
      | _, ws => [c] :: ws

/-- Words with one space between neighbours. -/
def unwords : List (List Char) → List Char
  | [] => []
  | [w] => w
  | w :: v :: ws => w ++ ' ' :: unwords (v :: ws)

/-- The text with every run of blanks between words turned into one space. -/
def squeeze (cs : List Char) : List Char :=
  unwords (words cs)

/-- Drop the blanks at both ends of a string. -/
def strip (s : String) : String :=
  String.ofList (trim s.toList)

/-- A string with every run of blanks between words turned into one space. -/
def squeezed (s : String) : String :=
  String.ofList (squeeze s.toList)

end ServiceAtlas.Text
