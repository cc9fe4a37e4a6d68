/-
The documentation of a declaration.

The summary is the first sentence of the first paragraph: everything up to a full stop
that a blank or the end of the paragraph follows, the first character not being counted as
such a stop.
-/
import ServiceAtlas.OrderedMap
import ServiceAtlas.Text.Blank

namespace ServiceAtlas

/-- Free text about a declaration, its parameters and its result. -/
structure Documentation where
  description : String
  params : OrderedMap String String
  returns : String
  deprecated : Option String
  since : String
  deriving Inhabited

namespace Documentation

/-- No documentation. -/
def none : Documentation :=
  ⟨"", ∅, "", Option.none, ""⟩

/-- The text before the first blank line. -/
def firstParagraph : List Char → List Char
  | [] => []
  | '\n' :: '\n' :: _ => []
  | c :: cs => c :: firstParagraph cs

/-- The text through the first full stop that ends it or that a space follows. -/
def throughStop : List Char → List Char
  | [] => []
  | ['.'] => ['.']
  | '.' :: ' ' :: _ => ['.']
  | c :: cs => c :: throughStop cs

/-- The first sentence of a text with single spaces. -/
def firstSentence : List Char → List Char
  | [] => []
  | c :: cs => c :: throughStop cs

/-- The first sentence of a description. -/
def summaryOf (description : List Char) : List Char :=
  firstSentence (Text.squeeze (firstParagraph description))

/-- The first sentence of the description. -/
def summary (d : Documentation) : String :=
  String.ofList (summaryOf d.description.toList)

end Documentation

end ServiceAtlas
