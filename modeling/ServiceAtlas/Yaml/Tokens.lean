/-
Cutting a YAML text into tokens.

Two things make this more than a matter of looking at the next character.  Indentation opens
and closes collections, so the columns of the open ones are kept.  And a key is known to be
one only at the colon behind it, so every place where a key may begin is remembered until
then; the tokens that the key turns out to need are put in at that place.
-/
import ServiceAtlas.Yaml.Label

namespace ServiceAtlas.Yaml

/-- A place where a key may begin: the number of tokens before it, and whether something
there has to be a key. -/
structure PendingKey where
  tokens : Nat
  required : Bool
  index : Nat
  line : Nat
  column : Nat

/-- What is known between two tokens.  The tokens are kept last first, and the pending keys
innermost first, one place for each bracket that is open and one for the text outside. -/
structure Scan where
  cursor : Cursor
  tokens : List Token
  count : Nat
  indent : Int
  outer : List Int
  brackets : Nat
  pending : List (Option PendingKey)
  keyAllowed : Bool

namespace Scan

/-- The state at the beginning of a text. -/
def start (text : List Char) : Scan where
  cursor := .start text
  tokens := []
  count := 0
  indent := -1
  outer := []
  brackets := 0
  pending := [none]
  keyAllowed := true

/-- The cursor is between brackets. -/
def inFlow (s : Scan) : Bool :=
  s.brackets ≠ 0

/-- One more token. -/
def push (s : Scan) (t : Token) : Scan :=
  { s with tokens := t :: s.tokens, count := s.count + 1 }

/-- One more token, and the place behind it. -/
def pushAt (s : Scan) (t : Token) (c : Cursor) : Scan :=
  { s.push t with cursor := c }

/-- One more token in front of all but the first `n`. -/
def insertAt (s : Scan) (n : Nat) (t : Token) : Scan :=
  let later := s.count - n
  { s with tokens := s.tokens.take later ++ t :: s.tokens.drop later, count := s.count + 1 }

/-! ### Indentation -/

/-- Close the open collections that are indented further than the column. -/
def closeBeyond (column : Int) : Nat → Scan → Scan
  | 0, s => s
  | n + 1, s =>
    if s.inFlow || s.indent ≤ column then s
    else
      match s.outer with
      | i :: outer => closeBeyond column n { s.push .blockEnd with indent := i, outer := outer }
      | [] => s

/-- Close the open collections that are indented further than the column. -/
def unwind (s : Scan) (column : Int) : Scan :=
  closeBeyond column s.outer.length s

/-- Open a collection at a column, unless one is open there already. -/
def indentTo (s : Scan) (column : Nat) : Option Scan :=
  if s.indent < column then some { s with indent := column, outer := s.indent :: s.outer }
  else none

/-! ### Pending keys -/

/-- A key is at most this many characters long. -/
def keyLimit : Nat := 1024

/-- Forget keys that can no longer be closed by a colon; a required one is a fault. -/
def dropStale (s : Scan) : Except Fault Scan :=
  let isStale : Option PendingKey → Bool
    | none => false
    | some k => k.line ≠ s.cursor.line || keyLimit < s.cursor.index - k.index
  let isLost : Option PendingKey → Bool
    | none => false
    | some k => isStale (some k) && k.required
  if s.pending.any isLost then .error .malformed
  else .ok { s with pending := s.pending.map fun k? => if isStale k? then none else k? }

/-- The key that is pending at the cursor. -/
def pendingKey? (s : Scan) : Option PendingKey :=
  (s.pending.head?).join

/-- Forget the key that is pending at the cursor; a required one is a fault. -/
def forgetKey (s : Scan) : Except Fault Scan :=
  match s.pending with
  | [] => .ok s
  | k? :: ks =>
    if (k?.map (·.required)).getD false then .error .malformed
    else .ok { s with pending := none :: ks }

/-- Remember the cursor as a place where a key may begin. -/
def rememberKey (s : Scan) : Except Fault Scan :=
  if s.keyAllowed then do
    let s ← s.forgetKey
    let c := s.cursor
    let required : Bool := !s.inFlow && s.indent = (c.column : Int)
    return { s with
      pending := some ⟨s.count, required, c.index, c.line, c.column⟩ :: s.pending.drop 1 }
  else return s

/-- Whether a key may begin behind the next token. -/
def allowKey (s : Scan) (b : Bool) : Scan :=
  { s with keyAllowed := b }

/-! ### Tokens of one kind -/

/-- Close all collections and forget the key in front of something that stands between
documents. -/
def betweenDocuments (s : Scan) : Except Fault Scan := do
  let s ← (s.unwind (-1)).forgetKey
  return s.allowKey false

/-- An opening bracket. -/
def openBracket (s : Scan) (t : Token) : Except Fault Scan := do
  let s ← s.rememberKey
  let s := { s with brackets := s.brackets + 1, pending := none :: s.pending }
  return (s.allowKey true).pushAt t s.cursor.step

/-- A closing bracket. -/
def closeBracket (s : Scan) (t : Token) : Except Fault Scan := do
  let s ← s.forgetKey
  let s :=
    if s.inFlow then { s with brackets := s.brackets - 1, pending := s.pending.drop 1 } else s
  return (s.allowKey false).pushAt t s.cursor.step

/-- A comma. -/
def comma (s : Scan) : Except Fault Scan := do
  let s ← (s.allowKey true).forgetKey
  return s.pushAt .flowEntry s.cursor.step

/-- Open the collection that an indicator outside brackets belongs to, where there may be
one. -/
def openBlock (s : Scan) (t : Token) : Except Fault Scan :=
  if s.inFlow then .ok s
  else if !s.keyAllowed then .error .malformed
  else
    match s.indentTo s.cursor.column with
    | some s => .ok (s.push t)
    | none => .ok s

/-- A hyphen in front of an entry. -/
def entry (s : Scan) : Except Fault Scan := do
  let s ← s.openBlock .blockSequenceStart
  let s ← (s.allowKey true).forgetKey
  return s.pushAt .blockEntry s.cursor.step

/-- A question mark in front of a key. -/
def key (s : Scan) : Except Fault Scan := do
  let s ← s.openBlock .blockMappingStart
  let s ← (s.allowKey (!s.inFlow)).forgetKey
  return s.pushAt .key s.cursor.step

/-- A colon in front of a value. -/
def value (s : Scan) : Except Fault Scan :=
  match s.pendingKey? with
  | some k =>
    let s := { s with pending := none :: s.pending.drop 1 }
    let s := s.insertAt k.tokens .key
    let s :=
      if s.inFlow then s
      else
        match s.indentTo k.column with
        | some s => s.insertAt k.tokens .blockMappingStart
        | none => s
    .ok ((s.allowKey false).pushAt .value s.cursor.step)
  | none => do
    let s ← s.openBlock .blockMappingStart
    let s ← (s.allowKey (!s.inFlow)).forgetKey
    return s.pushAt .value s.cursor.step

/-- An anchor, an alias or a tag. -/
def label (s : Scan) (read : Cursor → Except Fault (Token × Cursor)) : Except Fault Scan := do
  let s ← s.rememberKey
  let (t, c) ← read s.cursor
  return (s.allowKey false).pushAt t c

/-- A block scalar. -/
def blockScalar (s : Scan) (folded : Bool) : Except Fault Scan := do
  let s ← (s.allowKey true).forgetKey
  let (text, c) ← Scalar.block folded s.indent s.cursor.step
  return s.pushAt (.scalar .quoted (String.ofList text)) c

/-- A quoted scalar. -/
def quotedScalar (s : Scan) (quote : Char) : Except Fault Scan := do
  let s ← s.rememberKey
  let (text, garbled, c) ← Scalar.quoted quote (Scalar.budget s.cursor) s.cursor.step
  let form : ScalarForm := if garbled then .garbled else .quoted
  return (s.allowKey false).pushAt (.scalar form (String.ofList text)) c

/-- A plain scalar. -/
def plainScalar (s : Scan) : Except Fault Scan := do
  let s ← s.rememberKey
  let (text, c, broken) :=
    Scalar.plain s.inFlow s.indent (Scalar.budget s.cursor) [] false s.cursor
  return (s.allowKey broken).pushAt (.scalar .plain (String.ofList text)) c

/-! ### The next token -/

/-- The state behind spaces, comments and line breaks. -/
def skipGap : Nat → Scan → Scan
  | 0, s => s
  | n + 1, s =>
    let c := Scalar.skipSpaces s.cursor
    let c := if c.at_ '#' then c.skip (!isBreak ·) else c
    match c.lineBreak? with
    | none => { s with cursor := c }
    | some (_, c) => skipGap n { s with cursor := c, keyAllowed := s.keyAllowed || !s.inFlow }

/-- The characters that a plain scalar cannot begin with, but for those that can do so in
front of anything but a blank. -/
def indicators : List Char :=
  ['-', '?', ':', ',', '[', ']', '\x7b', '\x7d', '#', '&', '*', '!', '|', '>', '\'', '"', '%',
    '@', '\x60']

/-- A plain scalar begins at the cursor. -/
def startsPlain (s : Scan) (ch : Char) : Bool :=
  let c := s.cursor
  (!isBlank ch && !indicators.contains ch)
    || (!c.blankAt 1 && (ch = '-' || (!s.inFlow && (ch = '?' || ch = ':'))))

/-- The token at the cursor, where the given character stands. -/
def token (s : Scan) (ch : Char) : Except Fault Scan := do
  let c := s.cursor
  if ch = '%' && c.column = 0 then
    let s ← s.betweenDocuments
    let (t, c) ← Label.directive c
    return s.pushAt t c
  else if c.column = 0 && c.atDocumentMark then
    let s ← s.betweenDocuments
    return s.pushAt (if ch = '-' then .documentStart else .documentEnd) (c.advance 3)
  else if ch = '[' then s.openBracket .flowSequenceStart
  else if ch = '\x7b' then s.openBracket .flowMappingStart
  else if ch = ']' then s.closeBracket .flowSequenceEnd
  else if ch = '\x7d' then s.closeBracket .flowMappingEnd
  else if ch = ',' then s.comma
  else if ch = '-' && c.blankAt 1 then s.entry
  else if ch = '?' && (s.inFlow || c.blankAt 1) then s.key
  else if ch = ':' && (s.inFlow || c.blankAt 1) then s.value
  else if ch = '*' then
    s.label fun c => (Label.anchorName c).map fun (found, c) => (.alias found, c)
  else if ch = '&' then
    s.label fun c => (Label.anchorName c).map fun (found, c) => (.anchor found, c)
  else if ch = '!' then s.label Label.tag
  else if ch = '|' && !s.inFlow then s.blockScalar false
  else if ch = '>' && !s.inFlow then s.blockScalar true
  else if ch = '\'' || ch = '"' then s.quotedScalar ch
  else if s.startsPlain ch then s.plainScalar
  else throw .malformed

/-- The tokens to the end of the text, in order. -/
def toEnd : Nat → Scan → List Token
  | 0, s => s.tokens.reverse
  | budget + 1, s =>
    let s := skipGap (Scalar.budget s.cursor) s
    let next : Except Fault (Option Scan) := do
      let s := (← s.dropStale)
      let s := s.unwind s.cursor.column
      match s.cursor.rest with
      | ch :: _ => return some (← s.token ch)
      | [] => return none
    match next with
    | .ok (some s) => toEnd budget s
    | .ok none =>
      match (s.unwind (-1)).forgetKey with
      | .ok s => s.tokens.reverse
      | .error f => (s.push (.fault f)).tokens.reverse
    | .error f => (s.push (.fault f)).tokens.reverse

end Scan

/-- A text without the order mark that may stand at its beginning. -/
def withoutOrderMark : List Char → List Char
  | '\ufeff' :: cs => cs
  | cs => cs

/-- The tokens of a text. -/
def tokens (text : List Char) : List Token :=
  if text.all isAllowed then
    let s := Scan.start (withoutOrderMark text)
    s.toEnd (text.length + 2)
  else [.fault .malformed]

end ServiceAtlas.Yaml
