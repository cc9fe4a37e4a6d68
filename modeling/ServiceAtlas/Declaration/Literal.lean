/-
The source text of attribute values.

An attribute keeps the text it was written with.  `unquote` reads that text as a string
literal where it begins and ends with a double quote and leaves it alone elsewhere;
`items` takes an array initializer apart at the commas outside its string literals and
takes any other text for a single item.  `quote` writes the literal of a string.
-/
import ServiceAtlas.Text.Blank

namespace ServiceAtlas.Literal

open ServiceAtlas.Text

/-- The character that a backslash and the given character stand for. -/
def escaped? : Char → Option Char
  | 'n' => some '\n'
  | 't' => some '\t'
  | 'r' => some '\r'
  | '"' => some '"'
  | '\'' => some '\''
  | '\\' => some '\\'
  | _ => none

/-- The text with its escapes undone; a backslash before any other character stays. -/
def unescape : List Char → List Char
  | '\\' :: c :: cs =>
    match escaped? c with
    | some d => d :: unescape cs
    | none => '\\' :: c :: unescape cs
  | c :: cs => c :: unescape cs
  | [] => []

/-- The text between a first and a last character, both equal to the given ones. -/
def between? (first last : Char) : List Char → Option (List Char)
  | [] => none
  | c :: cs =>
    if c = first ∧ cs.getLast? = some last then some cs.dropLast else none

/-- The string that a text stands for when it begins and ends with a double quote; any
other text without the blanks around it. -/
def unquote (cs : List Char) : List Char :=
  let text := trim cs
  match between? '"' '"' text with
  | some inner => unescape inner
  | none => text

/-- A character inside a string literal. -/
def escape (c : Char) : List Char :=
  match c with
  | '\\' => ['\\', '\\']
  | '"' => ['\\', '"']
  | '\n' => ['\\', 'n']
  | '\r' => ['\\', 'r']
  | '\t' => ['\\', 't']
  | c => [c]

/-- The literal of a string. -/
def quote (cs : List Char) : List Char :=
  '"' :: cs.flatMap escape ++ ['"']

/-- Where a scan for commas stands: outside string literals, inside one, or inside one
behind a backslash. -/
inductive Position where
  | outside
  | inside
  | behindBackslash

/-- The position after one more character. -/
def Position.next : Position → Char → Position
  | outside, c => if c = '"' then inside else outside
  | inside, c => if c = '\\' then behindBackslash else if c = '"' then outside else inside
  | behindBackslash, _ => inside

/-- Put a character in front of the first part. -/
def onto (c : Char) : List (List Char) → List (List Char)
  | [] => [[c]]
  | p :: ps => (c :: p) :: ps

/-- The parts between the commas that stand outside string literals. -/
def parts : Position → List Char → List (List Char)
  | _, [] => [[]]
  | .outside, c :: cs =>
    if c = ',' then [] :: parts .outside cs else onto c (parts (Position.outside.next c) cs)
  | position, c :: cs => onto c (parts (position.next c) cs)

/-- The items of an array initializer, without blanks around them and without empty ones;
any other text is one item. -/
def items (cs : List Char) : List (List Char) :=
  let text := trim cs
  match between? '\x7b' '\x7d' text with
  | some inner => ((parts .outside inner).map trim).filter fun item => !item.isEmpty
  | none => [text]

end ServiceAtlas.Literal
