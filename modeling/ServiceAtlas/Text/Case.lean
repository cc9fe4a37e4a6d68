/-
Upper and lower case in the full Unicode sense.

One character may become several, and a capital sigma becomes the final form of the small
letter when a cased letter stands before it and none after it, characters without influence
on case being passed over.
-/
import ServiceAtlas.Text.Class
import ServiceAtlas.Text.CaseTable

namespace ServiceAtlas.Text

/-- The image of a code point under the first run that contains it. -/
def mapRuns (n : Nat) : List CaseRun → Option Nat
  | [] => none
  | run :: runs => (run.map? n).orElse fun _ => mapRuns n runs

/-- Upper case of one character. -/
def upperChar (c : Char) : List Char :=
  if c.toNat < 128 then [c.toUpper]
  else
    match upperExpansions.lookup c.toNat with
    | some ns => ns.map Char.ofNat
    | none => [((mapRuns c.toNat upperRuns).map Char.ofNat).getD c]

/-- Lower case of one character, a sigma being taken as not final. -/
def lowerChar (c : Char) : List Char :=
  if c.toNat < 128 then [c.toLower]
  else
    match lowerExpansions.lookup c.toNat with
    | some ns => ns.map Char.ofNat
    | none => [((mapRuns c.toNat lowerRuns).map Char.ofNat).getD c]

/-- The character has the property Uppercase. -/
def isUpperChar (c : Char) : Bool :=
  if c.toNat < 128 then 'A' ≤ c && c ≤ 'Z' else inRanges c.toNat uppercaseRanges

/-- Passed over when the neighbourhood of a sigma is inspected. -/
def isCaseIgnorable (c : Char) : Bool :=
  inRanges c.toNat caseIgnorableRanges

/-- Has a case and is not passed over. -/
def isCased (c : Char) : Bool :=
  if c.toNat < 128 then isAsciiLetter c else inRanges c.toNat casedRanges

/-- The nearest character that counts is a cased one. -/
def startsCased (cs : List Char) : Bool :=
  match cs.dropWhile isCaseIgnorable with
  | c :: _ => isCased c
  | [] => false

/-- Lower case of a text whose preceding characters, last one first, are given. -/
def lowerAfter (before : List Char) : List Char → List Char
  | [] => []
  | c :: cs =>
    let image :=
      if c.toNat = 0x3A3 ∧ startsCased before = true ∧ startsCased cs = false then
        [Char.ofNat 0x3C2]
      else lowerChar c
    image ++ lowerAfter (c :: before) cs

/-- Lower case of a text. -/
def lower (cs : List Char) : List Char :=
  lowerAfter [] cs

/-- Upper case of a text. -/
def upper (cs : List Char) : List Char :=
  cs.flatMap upperChar

/-- Lower case of a string. -/
def lowered (s : String) : String :=
  String.ofList (lower s.toList)

/-- A string with its first character in upper case. -/
def capitalized (s : String) : String :=
  match s.toList with
  | [] => ""
  | c :: cs => String.ofList (upperChar c ++ cs)

end ServiceAtlas.Text
