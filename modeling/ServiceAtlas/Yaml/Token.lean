/-
Tokens of YAML texts.

Indentation appears as tokens of its own: a block sequence or mapping begins with a token
and ends with one, as it would with brackets.  The last token of a text that cannot be cut
into tokens is the fault, so that a fault further to the front is found first.
-/

namespace ServiceAtlas.Yaml

/-- Why a text has no value. -/
inductive Fault where
  /-- The text breaks a rule of the format, or has a tag that stands for nothing. -/
  | malformed
  /-- An escape denotes no character. -/
  | codePoint
  /-- The number in an escape does not even fit into 31 bits. -/
  | codePointSize
  /-- A scalar that has to be a number is none. -/
  | numeral
  /-- A scalar that has to be a number is empty. -/
  | emptyNumeral
  /-- A number has so many parts to base sixty that the weight of one is out of range. -/
  | numeralSize
  /-- A scalar that has to be a truth value is no word for one. -/
  | flagWord
  /-- A scalar that has to be a date does not look like one. -/
  | dateForm
  /-- A date or time does not exist. -/
  | dateRange
  /-- What has to be a date is a mapping, although that has a value. -/
  | dateOfMapping
  /-- The search for the value of a mapping leads back to a collection around it. -/
  | endless
  deriving DecidableEq

/-- How a scalar is written.  One is garbled if its escapes denote halves of surrogate
pairs, which are no text. -/
inductive ScalarForm where
  | plain
  | quoted
  | garbled
  deriving DecidableEq

/-- A token. -/
inductive Token where
  | version (major : Nat)
  | tagHandle (handle expansion : String)
  | otherDirective
  | documentStart
  | documentEnd
  | blockSequenceStart
  | blockMappingStart
  | blockEnd
  | flowSequenceStart
  | flowSequenceEnd
  | flowMappingStart
  | flowMappingEnd
  | blockEntry
  | flowEntry
  | key
  | value
  | alias (name : String)
  | anchor (name : String)
  | tag (handle : Option String) (suffix : String)
  | scalar (form : ScalarForm) (text : String)
  | fault (f : Fault)
  deriving DecidableEq

end ServiceAtlas.Yaml
