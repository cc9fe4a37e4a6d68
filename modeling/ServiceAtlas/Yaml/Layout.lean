/-
JSON values as YAML texts.

Every item and every member has a line of its own.  Members are indented by two blanks a
level; items begin with a hyphen, which stands under the key that they belong to.  Empty
collections stay on their line.  A key that is too long to be recognised by the colon behind
it has a question mark in front, and its value a line of its own.
-/
import ServiceAtlas.Yaml.Style
import ServiceAtlas.Json
import ServiceAtlas.Decimal.Shortest

namespace ServiceAtlas.Yaml.Layout

/-- The greatest length of a key that is recognised by its colon. -/
def keyLength : Nat := 122

/-- A key stands on one line in front of its colon. -/
def isSimpleKey (key : List Char) : Bool :=
  !key.isEmpty && !Style.isMultiline key && key.length ≤ keyLength

/-- A number with a point, also in front of an exponent. -/
def realText (x : Binary64) : String :=
  match x with
  | .infinite negative => if negative then "-.inf" else ".inf"
  | .nan => ".nan"
  | .finite .. =>
    let cs := x.text.toList
    if cs.contains '.' then x.text
    else String.ofList (Text.replaceChar 'e' ['.', '0', 'e'] cs)

/-- A scalar from a column on, in a collection with the given indentation. -/
def scalar (indent column : Nat) : Json → List Char
  | .null => "null".toList
  | .bool b => (if b then "true" else "false").toList
  | .int n => Numeral.integerText n
  | .float x => (realText x).toList
  | .str s => Style.write ⟨indent + 2, true⟩ false column s.toList
  | .arr _ => ['[', ']']
  | .obj _ => ['\x7b', '\x7d']

/-- A line break, and the blanks that begin a line with the given indentation. -/
def newLine (indent : Nat) : List Char :=
  '\n' :: List.replicate indent ' '

/-- Where a value stands: behind the colon that ends a line's key before a column, or behind
an indicator that takes the first of the two columns of an indentation. -/
inductive Place where
  | afterKey (column : Nat)
  | afterIndicator

/-- A key with its colon, and the place of the value behind it. -/
def key (indent : Nat) (k : String) : List Char × Place :=
  let cs := k.toList
  if isSimpleKey cs then
    let written := Style.write ⟨indent + 2, false⟩ true indent cs
    (written ++ [':'], .afterKey (indent + written.length + 1))
  else
    let written := Style.write ⟨indent + 2, true⟩ false (indent + 2) cs
    ('?' :: ' ' :: written ++ newLine indent ++ [':'], .afterIndicator)

/-- The indentation of the items of a list at a place. -/
def Place.itemIndent (indent : Nat) : Place → Nat
  | afterKey _ => indent
  | afterIndicator => indent + 2

/-- What leads to the first line of a collection with the given indentation. -/
def Place.lead (indent : Nat) : Place → List Char
  | afterKey _ => newLine indent
  | afterIndicator => [' ']

/-- The column of a scalar at a place. -/
def Place.column (indent : Nat) : Place → Nat
  | afterKey column => column + 1
  | afterIndicator => indent + 2

mutual

/-- A value at a place in a collection with the given indentation. -/
def value (indent : Nat) (place : Place) : Json → List Char
  | .arr (v :: vs) =>
    let inner := place.itemIndent indent
    place.lead inner ++ '-' :: value inner .afterIndicator v ++ moreItems inner vs
  | .obj ((k, v) :: ms) =>
    let inner := indent + 2
    let (written, behind) := key inner k
    place.lead inner ++ written ++ value inner behind v ++ moreEntries inner ms
  | v => ' ' :: scalar indent (place.column indent) v

/-- The items after the first. -/
def moreItems (indent : Nat) : List Json → List Char
  | [] => []
  | v :: vs => newLine indent ++ '-' :: value indent .afterIndicator v ++ moreItems indent vs

/-- The entries after the first. -/
def moreEntries (indent : Nat) : List (String × Json) → List Char
  | [] => []
  | (k, v) :: ms =>
    let (written, behind) := key indent k
    newLine indent ++ written ++ value indent behind v ++ moreEntries indent ms

end

/-- The text of a value, with its final line break. -/
def text (v : Json) : List Char :=
  let lines : List Char :=
    match v with
    | .arr (v :: vs) => '-' :: value 0 .afterIndicator v ++ moreItems 0 vs
    | .obj ((k, v) :: ms) =>
      let (written, behind) := key 0 k
      written ++ value 0 behind v ++ moreEntries 0 ms
    | v => scalar 0 0 v
  lines ++ ['\n']

end ServiceAtlas.Yaml.Layout
