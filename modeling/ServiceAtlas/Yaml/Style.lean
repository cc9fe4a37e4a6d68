/-
How texts are written as YAML scalars.

A text is written plain if it reads back as the same text, else between apostrophes, and
with escapes between quotes only where the other ways cannot express it.  Lines are broken
at spaces behind the eightieth column, where a break reads back as the space.
-/
import ServiceAtlas.Yaml.Cursor
import ServiceAtlas.Yaml.Kind
import ServiceAtlas.Text.Quoted

namespace ServiceAtlas.Yaml.Style

open ServiceAtlas.Text

/-- Lines are broken behind this column. -/
def width : Nat := 80

/-! ### What a text contains -/

/-- Characters that break a line within a written scalar. -/
def breaksLine (c : Char) : Bool :=
  isBreak c && c ≠ '\r'

/-- Characters that are written as they are. -/
def isOrdinary (c : Char) : Bool :=
  let n := c.toNat
  c = '\n' || (0x20 ≤ n && n ≤ 0x7E) || n = 0x85 || (0xA0 ≤ n && n ≤ 0xD7FF)
    || (0xE000 ≤ n && n ≤ 0xFFFD && n ≠ 0xFEFF) || (0x10000 ≤ n && n < 0x10FFFF)

/-- Nothing or a blank follows. -/
def beforeBlank : List Char → Bool
  | [] => true
  | c :: _ => isBlank c

/-- The characters that have a meaning at the beginning of a scalar. -/
def leadingIndicators : List Char :=
  ['#', ',', '[', ']', '\x7b', '\x7d', '&', '*', '!', '|', '>', '\'', '"', '%', '@', '\x60']

/-- The text begins with something that has a meaning. -/
def startsWithIndicator : List Char → Bool
  | [] => false
  | c :: cs =>
    leadingIndicators.contains c || ((c = '?' || c = ':' || c = '-') && beforeBlank cs)
      || ['-', '-', '-'].isPrefixOf (c :: cs) || ['.', '.', '.'].isPrefixOf (c :: cs)

/-- A colon in front of a blank or a number sign behind one stands behind the given
character. -/
def hasIndicatorAfter : Char → List Char → Bool
  | _, [] => false
  | before, c :: cs =>
    (c = ':' && beforeBlank cs) || (c = '#' && isBlank before) || hasIndicatorAfter c cs

/-- Something in the text has a meaning outside quotes. -/
def hasIndicator : List Char → Bool
  | [] => false
  | c :: cs => startsWithIndicator (c :: cs) || hasIndicatorAfter c cs

/-- A character of the first class stands directly before one of the second. -/
def hasPair (p q : Char → Bool) : List Char → Bool
  | c :: d :: cs => (p c && q d) || hasPair p q (d :: cs)
  | _ => false

/-- The text begins or ends with a space or a line break. -/
def hasBlankEdge (cs : List Char) : Bool :=
  let isEdge (c : Char) : Bool := c = ' ' || breaksLine c
  cs.head?.any isEdge || cs.getLast?.any isEdge

/-- The text has more than one line. -/
def isMultiline (cs : List Char) : Bool :=
  cs.any breaksLine

/-! ### The choice -/

/-- The ways to write a scalar. -/
inductive Form where
  | plain
  | single
  | double
  deriving DecidableEq

/-- The text can be written plain and is then read as text. -/
def allowsPlain (cs : List Char) : Bool :=
  !cs.isEmpty && !isMultiline cs && !hasBlankEdge cs && !hasIndicator cs && cs.all isOrdinary
    && Kind.ofText (String.ofList cs) = .text

/-- The text can be written between apostrophes. -/
def allowsSingle (cs : List Char) : Bool :=
  cs.all isOrdinary && !hasPair (· = ' ') breaksLine cs && !hasPair breaksLine (· = ' ') cs

/-- The way in which a text is written; a key on one line cannot have line breaks. -/
def formOf (inKey : Bool) (cs : List Char) : Form :=
  if allowsPlain cs then .plain
  else if allowsSingle cs && !(inKey && isMultiline cs) then .single
  else .double

/-! ### Writing -/

/-- How the lines after the first one begin, and whether there may be any. -/
structure Folding where
  indent : Nat
  isAllowed : Bool

/-- The blanks that begin a line. -/
def Folding.margin (f : Folding) : List Char :=
  List.replicate f.indent ' '

/-- A line break, and the blanks that begin the next line. -/
def Folding.newLine (f : Folding) : List Char :=
  '\n' :: f.margin

/-- A plain text from a column on, behind the given character. -/
def plainFrom (f : Folding) : Nat → Option Char → List Char → List Char
  | _, _, [] => []
  | column, before, c :: cs =>
    let isSingle := c = ' ' && before ≠ some ' ' && cs.head? ≠ some ' '
    if isSingle && f.isAllowed && width < column then
      f.newLine ++ plainFrom f f.indent (some c) cs
    else c :: plainFrom f (column + 1) (some c) cs

/-- The inside of a text between apostrophes, from a column on and behind the given
character. -/
def singleFrom (f : Folding) : Nat → Option Char → List Char → List Char
  | _, _, [] => []
  | column, before, c :: cs =>
    let isSingle := c = ' ' && before.any (· ≠ ' ') && cs.head?.any (· ≠ ' ')
    if isSingle && f.isAllowed && width < column then
      f.newLine ++ singleFrom f f.indent (some c) cs
    else if breaksLine c then
      let first : List Char := if c = '\n' && !before.any breaksLine then ['\n'] else []
      if cs.head?.any breaksLine then first ++ c :: singleFrom f 0 (some c) cs
      else first ++ c :: f.margin ++ singleFrom f f.indent (some c) cs
    else if c = '\'' then '\'' :: '\'' :: singleFrom f (column + 2) (some c) cs
    else c :: singleFrom f (column + 1) (some c) cs

/-- The characters that have a letter of their own behind a backslash. -/
def letters : List (Char × Char) :=
  [('\x00', '0'), ('\x07', 'a'), ('\x08', 'b'), ('\t', 't'), ('\n', 'n'), ('\x0b', 'v'),
    ('\x0c', 'f'), ('\r', 'r'), ('\x1b', 'e'), ('"', '"'), ('\\', '\\'), ('\x85', 'N'),
    ('\xa0', '_'), ('\u2028', 'L'), ('\u2029', 'P')]

/-- The digits of a code point in upper case. -/
def upperHex (n width : Nat) : List Char :=
  (hexDigits n width).map Char.toUpper

/-- A character as an escape. -/
def escape (c : Char) : List Char :=
  match letters.lookup c with
  | some letter => ['\\', letter]
  | none =>
    if c.toNat ≤ 0xFF then '\\' :: 'x' :: upperHex c.toNat 2
    else if c.toNat ≤ 0xFFFF then '\\' :: 'u' :: upperHex c.toNat 4
    else '\\' :: 'U' :: upperHex c.toNat 8

/-- The character stands for itself between quotes. -/
def isLiteral (c : Char) : Bool :=
  let n := c.toNat
  c ≠ '"' && c ≠ '\\' && n ≠ 0x2028 && n ≠ 0x2029 && n ≠ 0xFEFF
    && ((0x20 ≤ n && n ≤ 0x7E) || (0xA0 ≤ n && n ≤ 0xD7FF) || (0xE000 ≤ n && n ≤ 0xFFFD))

/-- The end of a line within quotes, the beginning of the next one, and the column there.  A
space at the beginning of a line needs a backslash. -/
def doubleBreak (f : Folding) (next : Option Char) : List Char × Nat :=
  if next = some ' ' then ('\\' :: f.newLine ++ ['\\'], f.indent + 1)
  else ('\\' :: f.newLine, f.indent)

/-- The inside of a text between quotes, from a column on; `atStart` tells whether nothing
precedes, and `escaped` whether an escape does. -/
def doubleFrom (f : Folding) : Nat → Bool → Bool → List Char → List Char
  | _, _, _, [] => []
  | column, atStart, escaped, c :: cs =>
    let mayBreak := f.isAllowed && !atStart && !cs.isEmpty
    if isLiteral c then
      if mayBreak && (c = ' ' || escaped) && width < column then
        let (lines, column) := doubleBreak f (some c)
        lines ++ c :: doubleFrom f (column + 1) false false cs
      else c :: doubleFrom f (column + 1) false false cs
    else
      let written := escape c
      let column := column + written.length
      if mayBreak && width + 1 < column then
        let (lines, column) := doubleBreak f cs.head?
        written ++ lines ++ doubleFrom f column false true cs
      else written ++ doubleFrom f column false true cs

/-- A text from a column on, written in the way that suits it. -/
def write (f : Folding) (inKey : Bool) (column : Nat) (cs : List Char) : List Char :=
  match formOf inKey cs with
  | .plain => plainFrom f column none cs
  | .single => '\'' :: singleFrom f (column + 1) none cs ++ ['\'']
  | .double => '"' :: doubleFrom f (column + 1) true false cs ++ ['"']

end ServiceAtlas.Yaml.Style
