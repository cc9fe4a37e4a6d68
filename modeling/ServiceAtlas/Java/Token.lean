/-
Tokens of Java source texts.

A token carries the blanks and comments in front of it, so the source text of any run of
tokens can be given exactly.  Every operator and separator is a token of one character:
which of them belong together is decided where it matters, by the gap between them being
empty.  `tokens` cuts a whole text; nothing is lost but what follows the last token.
-/
import ServiceAtlas.Text.Class

namespace ServiceAtlas.Java

open ServiceAtlas.Text

/-- What can stand between two tokens. -/
inductive Gap where
  | blank (text : List Char)
  | comment (text : List Char)
  deriving DecidableEq

/-- The source text of a gap. -/
def Gap.text : Gap → List Char
  | blank t => t
  | comment t => t

/-- The comment in a gap, if it is one. -/
def Gap.comment? : Gap → Option String
  | blank _ => none
  | comment t => some (String.ofList t)

/-- The kinds of tokens. -/
inductive TokenKind where
  | word
  | number
  | literal
  | mark
  deriving DecidableEq

/-- A token and the gaps in front of it. -/
structure Token where
  gaps : List Gap
  kind : TokenKind
  text : String
  deriving DecidableEq

/-- White space between tokens, which is ASCII only. -/
def isSpace (c : Char) : Bool :=
  (9 ≤ c.toNat && c.toNat ≤ 13) || c = ' '

/-- The text through the mark that ends a block comment, and the rest. -/
def throughCommentEnd : List Char → List Char × List Char
  | [] => ([], [])
  | '*' :: '/' :: cs => (['*', '/'], cs)
  | c :: cs =>
    let (inner, rest) := throughCommentEnd cs
    (c :: inner, rest)

/-- The text through the first unescaped quote of the given kind, and the rest. -/
def throughQuote (quote : Char) : List Char → List Char × List Char
  | [] => ([], [])
  | '\\' :: c :: cs =>
    let (inner, rest) := throughQuote quote cs
    ('\\' :: c :: inner, rest)
  | c :: cs =>
    if c = quote then ([c], cs)
    else
      let (inner, rest) := throughQuote quote cs
      (c :: inner, rest)

/-- The text through the first three unescaped double quotes in a row, and the rest. -/
def throughTripleQuote : List Char → List Char × List Char
  | [] => ([], [])
  | '"' :: '"' :: '"' :: cs => (['"', '"', '"'], cs)
  | '\\' :: c :: cs =>
    let (inner, rest) := throughTripleQuote cs
    ('\\' :: c :: inner, rest)
  | c :: cs =>
    let (inner, rest) := throughTripleQuote cs
    (c :: inner, rest)

/-- The characters of a number behind its first one, given the character before them: a
sign belongs to the number behind the letter of an exponent. -/
def numberTail (last : Char) : List Char → List Char × List Char
  | [] => ([], [])
  | c :: cs =>
    let isSign := (c = '+' || c = '-') && (last = 'e' || last = 'E' || last = 'p' || last = 'P')
    if isAsciiDigit c || isAsciiLetter c || c = '_' || c = '.' || isSign then
      let (tail, rest) := numberTail c cs
      (c :: tail, rest)
    else ([], c :: cs)

/-- The gap at the beginning of a text, and the rest. -/
def gap? : List Char → Option (Gap × List Char)
  | '/' :: '/' :: cs =>
    some (.comment ('/' :: '/' :: cs.takeWhile (· ≠ '\n')), cs.dropWhile (· ≠ '\n'))
  | '/' :: '*' :: cs =>
    let (inner, rest) := throughCommentEnd cs
    some (.comment ('/' :: '*' :: inner), rest)
  | c :: cs =>
    if isSpace c then some (.blank (c :: cs.takeWhile isSpace), cs.dropWhile isSpace) else none
  | [] => none

/-- The gaps at the beginning of a text, and the rest. -/
def gaps (cs : List Char) : List Gap × List Char :=
  match gap? cs with
  | none => ([], cs)
  | some (g, rest) =>
    if _h : rest.length < cs.length then
      let (gs, rest) := gaps rest
      (g :: gs, rest)
    else ([g], rest)
termination_by cs.length

/-- Whether a number begins here: with a digit, or with a point and a digit. -/
def startsNumber : List Char → Bool
  | '.' :: c :: _ => isAsciiDigit c
  | c :: _ => isAsciiDigit c
  | [] => false

/-- The kind and the text of the token at the beginning of a text, and the rest. -/
def lexeme? : List Char → Option (TokenKind × List Char × List Char)
  | [] => none
  | '"' :: '"' :: '"' :: cs =>
    let (inner, rest) := throughTripleQuote cs
    some (.literal, '"' :: '"' :: '"' :: inner, rest)
  | c :: cs =>
    if c = '"' || c = '\'' then
      let (inner, rest) := throughQuote c cs
      some (.literal, c :: inner, rest)
    else if isNameStart c then
      some (.word, c :: cs.takeWhile isNamePart, cs.dropWhile isNamePart)
    else if startsNumber (c :: cs) then
      let (tail, rest) := numberTail c cs
      some (.number, c :: tail, rest)
    else some (.mark, [c], cs)

/-- The tokens of a text. -/
def tokens (cs : List Char) : List Token :=
  let (before, rest) := gaps cs
  match lexeme? rest with
  | none => []
  | some (kind, text, rest) =>
    let token : Token := ⟨before, kind, String.ofList text⟩
    if _h : rest.length < cs.length then token :: tokens rest else [token]
termination_by cs.length

namespace Token

/-- The token is the given word. -/
def isWord (t : Token) (s : String) : Bool :=
  t.kind = .word && t.text = s

/-- The token is the given operator or separator. -/
def isMark (t : Token) (c : Char) : Bool :=
  t.kind = .mark && t.text = String.singleton c

/-- No gap stands in front of the token. -/
def isAdjacent (t : Token) : Bool :=
  t.gaps.isEmpty

/-- The comments in front of the token, in order. -/
def comments (t : Token) : List String :=
  t.gaps.filterMap Gap.comment?

/-- The source text of the token with the gaps in front of it. -/
def fullText (t : Token) : List Char :=
  t.gaps.flatMap Gap.text ++ t.text.toList

end Token

/-- The source text of a run of tokens, without what stands in front of the first one. -/
def sourceText : List Token → String
  | [] => ""
  | t :: ts => String.ofList (t.text.toList ++ ts.flatMap Token.fullText)

/-- The source text of the tokens between two places, given by the tokens that follow each. -/
def textBetween (start finish : List Token) : String :=
  sourceText (start.take (start.length - finish.length))

end ServiceAtlas.Java
