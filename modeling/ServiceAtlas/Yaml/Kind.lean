/-
Kinds of YAML values.

A tag says what kind of value a scalar is; without one, the text of a plain scalar does.
There are eighteen words for the two truth values and four for null; these, numbers, dates
and two marks for keys are the plain scalars that are no text.
-/
import ServiceAtlas.Yaml.Token
import ServiceAtlas.Yaml.Numeral
import ServiceAtlas.Yaml.Moment

namespace ServiceAtlas.Yaml

/-- What a tag says of a node. -/
inductive Kind where
  | null
  | bool
  | int
  | float
  | bytes
  | moment
  | text
  | list
  | map
  | set
  | pairs
  /-- A key whose value is merged into the mapping that it stands in. -/
  | merge
  /-- A key that stands for the value of a mapping; it counts as text. -/
  | value
  | unknown
  deriving DecidableEq

namespace Kind

/-- Values of the kind are collections. -/
def isCollection (k : Kind) : Bool :=
  [list, map, set, pairs].contains k

/-- Values of the kind are atoms. -/
def isAtomic (k : Kind) : Bool :=
  [null, bool, int, float, bytes, moment, text].contains k

/-- The beginning of the tags of the format itself. -/
def tagStart : String := "tag:yaml.org,2002:"

/-- The kinds by the end of their tags. -/
def names : List (String × Kind) :=
  [("null", null), ("bool", bool), ("int", int), ("float", float), ("binary", bytes),
    ("timestamp", moment), ("str", text), ("seq", list), ("map", map), ("set", set),
    ("omap", pairs), ("pairs", pairs), ("merge", merge), ("value", value)]

/-- The kind that a tag says. -/
def ofTag (tag : String) : Kind :=
  ((names.find? fun n => tagStart ++ n.1 = tag).map Prod.snd).getD unknown

/-- The words for truth values. -/
def flagWords : List (String × Bool) :=
  [("yes", true), ("Yes", true), ("YES", true), ("no", false), ("No", false), ("NO", false),
    ("true", true), ("True", true), ("TRUE", true), ("false", false), ("False", false),
    ("FALSE", false), ("on", true), ("On", true), ("ON", true), ("off", false),
    ("Off", false), ("OFF", false)]

/-- The words for null. -/
def nullWords : List String :=
  ["", "~", "null", "Null", "NULL"]

/-- The kind of a plain scalar without a tag. -/
def ofText (text : String) : Kind :=
  if (flagWords.lookup text).isSome then bool
  else if Numeral.looksReal text.toList then float
  else if Numeral.looksInteger text.toList then int
  else if text = "<<" then merge
  else if nullWords.contains text then null
  else if Moment.looksLike text.toList then moment
  else if text = "=" then value
  else .text

/-- The kind of a scalar. -/
def ofScalar (tag : Option String) (form : ScalarForm) (text : String) : Kind :=
  match tag with
  | some tag => ofTag tag
  | none => if form = .plain then ofText text else .text

end Kind

end ServiceAtlas.Yaml
