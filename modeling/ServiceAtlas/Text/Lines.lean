/-
Lines of a text.

A line ends at any of the Unicode line boundaries; a carriage return directly
followed by a line feed is one boundary.  The last line needs no boundary, and a
boundary at the very end opens no further line.
-/

namespace ServiceAtlas.Text

/-- Line boundaries: the vertical controls, the information separators from file to
record, next line, and the line and paragraph separators. -/
def isLineEnd (c : Char) : Bool :=
  let n := c.toNat
  (10 ≤ n && n ≤ 13) || (28 ≤ n && n ≤ 30) || n == 0x85 || n == 0x2028 || n == 0x2029

/-- The lines of a text, without their boundaries. -/
def lines : List Char → List (List Char)
  | [] => []
  | '\r' :: '\n' :: cs => [] :: lines cs
  | c :: cs =>
    if isLineEnd c then [] :: lines cs
    else
      match cs, lines cs with
      | _ :: _, l :: ls => (c :: l) :: ls
      | _, ls => [c] :: ls

/-- Lines joined by a line feed between neighbours. -/
def unlines : List (List Char) → List Char
  | [] => []
  | [l] => l
  | l :: k :: ls => l ++ '\n' :: unlines (k :: ls)

end ServiceAtlas.Text
