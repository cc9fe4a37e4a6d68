/-
Annotations and the reading of their attributes.

An annotation has a simple name and attributes whose values are kept as source text.  A
look-up takes the first of several keys that is present, whatever its value.
-/
import ServiceAtlas.OrderedMap
import ServiceAtlas.Declaration.Literal
import ServiceAtlas.Text.Case

namespace ServiceAtlas

/-- An annotation: its simple name and the source text of its attributes. -/
structure Mark where
  name : String
  attributes : OrderedMap String String
  deriving Inhabited

namespace Mark

/-- An annotation without attributes. -/
def plain (name : String) : Mark :=
  ⟨name, ∅⟩

/-- The source text of an attribute. -/
def get? (a : Mark) (key : String) : Option String :=
  a.attributes.get? key

/-- The source text of the first attribute that is present. -/
def first? (a : Mark) (keys : List String) : Option String :=
  keys.findSome? a.get?

/-- The items of the first attribute that is present, read as string literals. -/
def texts (a : Mark) (keys : List String) : List String :=
  match a.first? keys with
  | none => []
  | some raw => (Literal.items raw.toList).map fun item => String.ofList (Literal.unquote item)

/-- The first item of a source text, read as a string literal; an empty array has the
empty text. -/
def firstText (raw : String) : String :=
  match Literal.items raw.toList with
  | [] => ""
  | item :: _ => String.ofList (Literal.unquote item)

/-- The text of the first attribute that is present. -/
def text? (a : Mark) (keys : List String) : Option String :=
  (a.first? keys).map firstText

/-- An attribute that is the literal true or false, in any case. -/
def flag? (a : Mark) (key : String) : Option Bool :=
  match a.get? key with
  | none => none
  | some raw =>
    let word := Text.lower (Text.trim raw.toList)
    if word = "true".toList then some true
    else if word = "false".toList then some false
    else none

/-- The first annotation with one of the names. -/
def find? (marks : List Mark) (names : List String) : Option Mark :=
  marks.find? fun a => names.contains a.name

/-- One of the annotations has one of the names. -/
def any (marks : List Mark) (names : List String) : Bool :=
  marks.any fun a => names.contains a.name

end Mark

end ServiceAtlas
