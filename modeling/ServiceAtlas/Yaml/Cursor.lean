/-
Places in a YAML text.

A cursor is what is left of the text and how far into it and into which line that is.
Looking ahead gives nothing at the end of the text, and the end counts as a blank and as a
line break: whatever a blank ends, the end of the text ends too.
-/
import ServiceAtlas.Text.Class

namespace ServiceAtlas.Yaml

/-- Characters that end a line. -/
def isBreak (c : Char) : Bool :=
  c = '\n' || c = '\r' || c = '\x85' || c = '\u2028' || c = '\u2029'

/-- Spaces, tabs and line breaks. -/
def isBlank (c : Char) : Bool :=
  c = ' ' || c = '\t' || isBreak c

/-- Letters, digits, hyphens and underscores, of which names are made. -/
def isNameChar (c : Char) : Bool :=
  Text.isAsciiLetter c || Text.isAsciiDigit c || c = '-' || c = '_'

/-- Characters that may occur in a text at all. -/
def isAllowed (c : Char) : Bool :=
  let n := c.toNat
  n = 9 || n = 10 || n = 13 || (0x20 ≤ n && n ≤ 0x7E) || n = 0x85 || (0xA0 ≤ n && n ≤ 0xD7FF)
    || (0xE000 ≤ n && n ≤ 0xFFFD) || 0x10000 ≤ n

/-- What is left of a text, and where in the text it begins. -/
structure Cursor where
  rest : List Char
  index : Nat
  line : Nat
  column : Nat

namespace Cursor

/-- The beginning of a text. -/
def start (text : List Char) : Cursor :=
  ⟨text, 0, 0, 0⟩

/-- The character so many places ahead. -/
def peek (c : Cursor) (n : Nat) : Option Char :=
  c.rest[n]?

/-- The character at the cursor is the given one. -/
def at_ (c : Cursor) (ch : Char) : Bool :=
  c.peek 0 = some ch

/-- A line break or the end is so many places ahead. -/
def breakAt (c : Cursor) (n : Nat) : Bool :=
  match c.peek n with
  | none => true
  | some ch => isBreak ch

/-- A blank, a line break or the end is so many places ahead. -/
def blankAt (c : Cursor) (n : Nat) : Bool :=
  match c.peek n with
  | none => true
  | some ch => isBlank ch

/-- A space, a line break or the end is so many places ahead. -/
def spaceAt (c : Cursor) (n : Nat) : Bool :=
  c.breakAt n || c.peek n = some ' '

/-- The place behind the next character.  An order mark takes no column, and a carriage
return in front of a line feed does not end the line yet. -/
def step (c : Cursor) : Cursor :=
  match c.rest with
  | [] => c
  | ch :: rest =>
    if isBreak ch && !(ch = '\r' && rest.head? = some '\n') then ⟨rest, c.index + 1, c.line + 1, 0⟩
    else if ch = '\ufeff' then ⟨rest, c.index + 1, c.line, c.column⟩
    else ⟨rest, c.index + 1, c.line, c.column + 1⟩

/-- The place so many characters ahead. -/
def advance : Nat → Cursor → Cursor
  | 0, c => c
  | n + 1, c => advance n c.step

/-- The longest run of characters of a class, and the place behind it. -/
def run (c : Cursor) (p : Char → Bool) : List Char × Cursor :=
  let found := c.rest.takeWhile p
  (found, c.advance found.length)

/-- The place behind the characters of a class. -/
def skip (c : Cursor) (p : Char → Bool) : Cursor :=
  (c.run p).2

/-- The line break at the cursor as it is kept in scalars, and the place behind it.  The
separators for lines and paragraphs are kept as they are, and all other breaks are one line
feed. -/
def lineBreak? (c : Cursor) : Option (Char × Cursor) :=
  match c.rest with
  | '\r' :: '\n' :: _ => some ('\n', c.advance 2)
  | ch :: _ =>
    if ch = '\u2028' || ch = '\u2029' then some (ch, c.step)
    else if isBreak ch then some ('\n', c.step)
    else none
  | [] => none

/-- The place behind the line break at the cursor, if there is one. -/
def afterLineBreak (c : Cursor) : Cursor :=
  match c.lineBreak? with
  | some (_, c) => c
  | none => c

/-- The mark of a new document or of the end of one is at the cursor. -/
def atDocumentMark (c : Cursor) : Bool :=
  (['-', '-', '-'].isPrefixOf c.rest || ['.', '.', '.'].isPrefixOf c.rest) && c.blankAt 3

end Cursor

end ServiceAtlas.Yaml
