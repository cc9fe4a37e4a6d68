/-
The text of YAML scalars.

There are four ways to write a scalar: plain, between apostrophes or quotes, and as an
indented block.  In the first two a line break within the text stands for a space, and n
more of them for n line feeds; a folded block does so between lines that are not indented
further.

The loops take a budget of steps.  Every round consumes a character, so a budget of one more
than the number of characters left is never used up.
-/
import ServiceAtlas.Yaml.Cursor
import ServiceAtlas.Yaml.Token
import ServiceAtlas.Decimal.Numeral

namespace ServiceAtlas.Yaml.Scalar

/-- A scalar text, and the place behind it. -/
abbrev Piece := List Char × Cursor

/-- The number of rounds that are enough from a place on. -/
def budget (c : Cursor) : Nat :=
  c.rest.length + 1

/-! ### Folding -/

/-- What the line breaks between two lines stand for: the first one for a space if it is a
line feed and the only one. -/
def fold (first : Char) (more : List Char) : List Char :=
  if first ≠ '\n' then first :: more
  else if more.isEmpty then [' ']
  else more

/-! ### Plain scalars -/

/-- The place behind spaces. -/
def skipSpaces (c : Cursor) : Cursor :=
  c.skip (· = ' ')

/-- The further line breaks between two lines of a plain scalar, or nothing if the mark of a
document follows one of them. -/
def plainBreaks : Nat → Cursor → Option (List Char) × Cursor
  | 0, c => (some [], c)
  | n + 1, c =>
    let c := skipSpaces c
    match c.lineBreak? with
    | none => (some [], c)
    | some (b, c) =>
      if c.atDocumentMark then (none, c)
      else
        let (more, c) := plainBreaks n c
        (more.map (b :: ·), c)

/-- What stands between two parts of a plain scalar, the place behind it, and whether it has
line breaks. -/
def plainGap (c : Cursor) : List Char × Cursor × Bool :=
  let (spaces, c) := c.run (· = ' ')
  match c.lineBreak? with
  | none => (spaces, c, false)
  | some (b, c) =>
    if c.atDocumentMark then ([], c, true)
    else
      match plainBreaks (budget c) c with
      | (none, c) => ([], c, true)
      | (some more, c) => (fold b more, c, true)

/-- The character ends a part of a plain scalar, given what follows it. -/
def endsPlainPart (inFlow : Bool) (ch : Char) (next : Option Char) : Bool :=
  let indicators : List Char := [',', '[', ']', '\x7b', '\x7d']
  let separates : Bool :=
    match next with
    | none => true
    | some d => isBlank d || (inFlow && indicators.contains d)
  isBlank ch || (ch = ':' && separates) || (inFlow && (ch = '?' || indicators.contains ch))

/-- The characters of a part of a plain scalar. -/
def plainPart (inFlow : Bool) : List Char → List Char
  | [] => []
  | ch :: rest => if endsPlainPart inFlow ch rest.head? then [] else ch :: plainPart inFlow rest

/-- A plain scalar: its text, the place behind it, and whether a line break was passed after
the last part.  Lines that go on with it are indented by more than `indent`. -/
def plain (inFlow : Bool) (indent : Int) : Nat → List Char → Bool → Cursor →
    List Char × Cursor × Bool
  | 0, _, broken, c => ([], c, broken)
  | n + 1, before, broken, c =>
    let part := if c.at_ '#' then [] else plainPart inFlow c.rest
    if part.isEmpty then ([], c, broken)
    else
      let (gap, c, broken) := plainGap (c.advance part.length)
      if gap.isEmpty || c.at_ '#' || (!inFlow && (c.column : Int) ≤ indent) then
        (before ++ part, c, broken)
      else
        let (more, c, broken) := plain inFlow indent n gap broken c
        (before ++ part ++ more, c, broken)

/-! ### Quoted scalars -/

/-- What the characters after a backslash stand for, where that is one character. -/
def escapes : List (Char × Char) :=
  [('0', '\x00'), ('a', '\x07'), ('b', '\x08'), ('t', '\t'), ('\t', '\t'), ('n', '\n'),
    ('v', '\x0b'), ('f', '\x0c'), ('r', '\r'), ('e', '\x1b'), (' ', ' '), ('"', '"'),
    ('\\', '\\'), ('/', '/'), ('N', '\x85'), ('_', '\xa0'), ('L', '\u2028'), ('P', '\u2029')]

/-- How many hexadecimal digits follow a letter after a backslash. -/
def codeLengths : List (Char × Nat) :=
  [('x', 2), ('u', 4), ('U', 8)]

/-- The value of a hexadecimal digit. -/
def hexValue? (c : Char) : Option Nat :=
  if Text.isAsciiDigit c then some (c.toNat - 48)
  else if 'a' ≤ c ∧ c ≤ 'f' then some (c.toNat - 87)
  else if 'A' ≤ c ∧ c ≤ 'F' then some (c.toNat - 55)
  else none

/-- The number that hexadecimal digits denote. -/
def hexNumber? (ds : List Char) : Option Nat :=
  ds.foldl (fun n? d => n?.bind fun n => (hexValue? d).map (16 * n + ·)) (some 0)

/-- The first code point that the upper halves of surrogate pairs do not reach. -/
def isSurrogate (n : Nat) : Bool :=
  0xD800 ≤ n && n ≤ 0xDFFF

/-- The line breaks and leading blanks in front of the next line of a quoted scalar. -/
def quotedBreaks : Nat → Cursor → Except Fault Piece
  | 0, c => .ok ([], c)
  | n + 1, c =>
    if c.atDocumentMark then .error .malformed
    else
      let c := c.skip fun ch => ch = ' ' || ch = '\t'
      match c.lineBreak? with
      | none => .ok ([], c)
      | some (b, c) => do
        let (more, c) ← quotedBreaks n c
        return (b :: more, c)

/-- A run of blanks in a quoted scalar, or what its line breaks stand for. -/
def quotedGap (c : Cursor) : Except Fault Piece := do
  let (spaces, c) := c.run fun ch => ch = ' ' || ch = '\t'
  match c.lineBreak? with
  | none => return (spaces, c)
  | some (b, c) =>
    let (more, c) ← quotedBreaks (budget c) c
    return (fold b more, c)

/-- The text that an escape stands for, the cursor being behind its backslash; nothing if it
denotes half of a surrogate pair. -/
def escape (c : Cursor) : Except Fault (Option (List Char) × Cursor) :=
  match c.peek 0 with
  | none => .error .malformed
  | some ch =>
    match escapes.lookup ch, codeLengths.lookup ch with
    | some d, _ => .ok (some [d], c.step)
    | none, some length =>
      let digits := c.step.rest.take length
      if digits.length < length then .error .malformed
      else
        match hexNumber? digits with
        | none => .error .malformed
        | some code =>
          if 0x7FFFFFFF < code then .error .codePointSize
          else if 0x10FFFF < code then .error .codePoint
          else
            let text := if isSurrogate code then none else some [Char.ofNat code]
            .ok (text, c.step.advance length)
    | none, none =>
      match c.lineBreak? with
      | none => .error .malformed
      | some (_, c) => do
        let (text, c) ← quotedBreaks (budget c) c
        return (some text, c)

/-- The text of a quoted scalar up to its closing quote, and whether it is garbled. -/
def quoted (quote : Char) : Nat → Cursor → Except Fault (List Char × Bool × Cursor)
  | 0, _ => .error .malformed
  | n + 1, c =>
    match c.rest with
    | [] => .error .malformed
    | ch :: rest =>
      if ch = quote then
        if quote = '\'' && rest.head? = some '\'' then do
          let (text, garbled, c) ← quoted quote n (c.advance 2)
          return ('\'' :: text, garbled, c)
        else .ok ([], false, c.step)
      else if quote = '"' && ch = '\\' then do
        let (here?, c) ← escape c.step
        let (text, garbled, c) ← quoted quote n c
        match here? with
        | some here => return (here ++ text, garbled, c)
        | none => return ('\ufffd' :: text, true, c)
      else if isBlank ch then do
        let (gap, c) ← quotedGap c
        if c.rest.isEmpty then throw .malformed
        let (text, garbled, c) ← quoted quote n c
        return (gap ++ text, garbled, c)
      else do
        let (text, garbled, c) ← quoted quote n c.step
        return (ch :: text, garbled, c)

/-! ### Block scalars -/

/-- What becomes of the line breaks at the end of a block. -/
inductive Chomping where
  | clip
  | strip
  | keep
  deriving DecidableEq

/-- The chomping that a character asks for. -/
def chomping? (ch : Option Char) : Option Chomping :=
  if ch = some '+' then some .keep else if ch = some '-' then some .strip else none

/-- The digit at a place. -/
def digit? (c : Cursor) : Option Nat :=
  (c.peek 0).bind fun ch => if Text.isAsciiDigit ch then some (ch.toNat - 48) else none

/-- The chomping and the indentation that the head of a block gives, in either order. -/
def blockHead (c : Cursor) : Option Chomping × Option Nat × Cursor :=
  match chomping? (c.peek 0) with
  | some chomping =>
    let c := c.step
    match digit? c with
    | some d => (some chomping, some d, c.step)
    | none => (some chomping, none, c)
  | none =>
    match digit? c with
    | none => (none, none, c)
    | some d =>
      let c := c.step
      match chomping? (c.peek 0) with
      | some chomping => (some chomping, some d, c.step)
      | none => (none, some d, c)

/-- The place behind the spaces, the comment and the line break that end a line; anything
else in it is a fault. -/
def restOfLine (c : Cursor) : Except Fault Cursor :=
  let c := skipSpaces c
  let c := if c.at_ '#' then c.skip (!isBreak ·) else c
  if c.breakAt 0 then .ok c.afterLineBreak else .error .malformed

/-- The place behind at most as many spaces as lead up to a column. -/
def skipIndent (indent : Int) : Nat → Cursor → Cursor
  | 0, c => c
  | n + 1, c =>
    if (c.column : Int) < indent && c.at_ ' ' then skipIndent indent n c.step else c

/-- The empty lines in front of the next line of a block with known indentation. -/
def blockBreaks (indent : Int) : Nat → Cursor → Piece
  | 0, c => ([], c)
  | n + 1, c =>
    let c := skipIndent indent (budget c) c
    match c.lineBreak? with
    | none => ([], c)
    | some (b, c) =>
      let (more, c) := blockBreaks indent n c
      (b :: more, c)

/-- The empty lines in front of a block, and the widest indentation found there. -/
def blockMargin : Nat → Nat → Cursor → List Char × Nat × Cursor
  | 0, widest, c => ([], widest, c)
  | n + 1, widest, c =>
    if c.at_ ' ' then blockMargin n (max widest c.step.column) c.step
    else
      match c.lineBreak? with
      | none => ([], widest, c)
      | some (b, c) =>
        let (more, widest, c) := blockMargin n widest c
        (b :: more, widest, c)

/-- The lines of a block from one of them on: their text without the final line break, that
line break, the empty lines behind it, and the place behind those. -/
def blockLines (folded : Bool) (indent : Int) : Nat → Cursor →
    List Char × List Char × List Char × Cursor
  | 0, c => ([], [], [], c)
  | n + 1, c =>
    let flush := !(c.at_ ' ' || c.at_ '\t')
    let (text, c) := c.run (!isBreak ·)
    let (lineBreak, c) : List Char × Cursor :=
      match c.lineBreak? with
      | some (b, c) => ([b], c)
      | none => ([], c)
    let (breaks, c) := blockBreaks indent (budget c) c
    if (c.column : Int) = indent && !c.rest.isEmpty then
      let joint : List Char :=
        if folded && lineBreak = ['\n'] && flush && !(c.at_ ' ' || c.at_ '\t') then
          if breaks.isEmpty then [' '] else []
        else lineBreak
      let (more, lastBreak, lastBreaks, c) := blockLines folded indent n c
      (text ++ joint ++ breaks ++ more, lastBreak, lastBreaks, c)
    else (text, lineBreak, breaks, c)

/-- A block scalar, the cursor being behind its indicator; `indent` is the indentation of
the collection that it stands in. -/
def block (folded : Bool) (indent : Int) (c : Cursor) : Except Fault Piece := do
  let (chomping, increment, c) := blockHead c
  if increment = some 0 || !c.spaceAt 0 then throw .malformed
  let c ← restOfLine c
  let least : Int := max 1 (indent + 1)
  let (breaks, indent, c) : List Char × Int × Cursor :=
    match increment with
    | none =>
      let (breaks, widest, c) := blockMargin (budget c) 0 c
      (breaks, max least widest, c)
    | some k =>
      let indent := least + k - 1
      let (breaks, c) := blockBreaks indent (budget c) c
      (breaks, indent, c)
  let (text, lastBreak, lastBreaks, c) : List Char × List Char × List Char × Cursor :=
    if (c.column : Int) = indent && !c.rest.isEmpty then
      let (text, lastBreak, lastBreaks, c) := blockLines folded indent (budget c) c
      (breaks ++ text, lastBreak, lastBreaks, c)
    else ([], [], breaks, c)
  match chomping.getD .clip with
  | .clip => return (text ++ lastBreak, c)
  | .strip => return (text, c)
  | .keep => return (text ++ lastBreak ++ lastBreaks, c)

end ServiceAtlas.Yaml.Scalar
