/-
Similarity of texts.

The letters that two texts share are counted by taking out the longest common part, the
first one of several, and counting on at both sides of it.  Texts are close if twice that
count is at least six tenths of both lengths together.
-/

namespace ServiceAtlas.Text

/-- The length of the common beginning of two texts. -/
def commonLength : List Char → List Char → Nat
  | a :: as, b :: bs => if a = b then commonLength as bs + 1 else 0
  | _, _ => 0

/-- A common part of two texts: where it begins in both, and how long it is. -/
structure CommonPart where
  first : Nat
  second : Nat
  length : Nat

/-- The longer of two common parts, the first one if they are equally long. -/
def CommonPart.longer (p q : CommonPart) : CommonPart :=
  if p.length < q.length then q else p

/-- The longest common part that begins with the first text; `j` counts what of the second
one has been passed over. -/
def longestHere (as : List Char) (i : Nat) : Nat → List Char → CommonPart → CommonPart
  | _, [], best => best
  | j, b :: bs, best =>
    longestHere as i (j + 1) bs (best.longer ⟨i, j, commonLength as (b :: bs)⟩)

/-- The longest common part of two texts; `i` counts what of the first one has been passed
over. -/
def longestPart (bs : List Char) : Nat → List Char → CommonPart → CommonPart
  | _, [], best => best
  | i, a :: as, best => longestPart bs (i + 1) as (longestHere (a :: as) i 0 bs best)

/-- The number of shared letters; a budget of the length of the first text is enough. -/
def sharedLetters : Nat → List Char → List Char → Nat
  | 0, _, _ => 0
  | budget + 1, as, bs =>
    let p := longestPart bs 0 as ⟨0, 0, 0⟩
    if p.length = 0 then 0
    else
      sharedLetters budget (as.take p.first) (bs.take p.second) + p.length
        + sharedLetters budget (as.drop (p.first + p.length)) (bs.drop (p.second + p.length))

/-- Two texts are close. -/
def areClose (as bs : List Char) : Bool :=
  3 * (as.length + bs.length) ≤ 10 * sharedLetters as.length as bs

end ServiceAtlas.Text
