/-
Faults in the syntax of Java texts.

The check looks for faults that can be told from neighbouring tokens: brackets that do not
match, operators without a right operand, empty places between separators, values that
follow each other, and blocks whose last statement does not end.  A text that passes may
still be wrong; one that does not is.
-/
import ServiceAtlas.Java.Token

namespace ServiceAtlas.Java.SyntaxCheck

/-! ### Brackets -/

/-- The bracket that closes an opening one. -/
def closing? (t : Token) : Option Char :=
  if t.isMark '(' then some ')'
  else if t.isMark '[' then some ']'
  else if t.isMark '\x7b' then some '\x7d'
  else none

/-- The brackets match, those in the list being open, the innermost first. -/
def bracketsMatch : List Char → List Token → Bool
  | opened, [] => opened.isEmpty
  | opened, t :: ts =>
    match closing? t with
    | some c => bracketsMatch (c :: opened) ts
    | none =>
      if t.isMark ')' || t.isMark ']' || t.isMark '\x7d' then
        match opened with
        | c :: opened => t.isMark c && bracketsMatch opened ts
        | [] => false
      else bracketsMatch opened ts

/-! ### Neighbours -/

/-- The token is one of the marks. -/
def isOneOf (marks : List Char) (t : Token) : Bool :=
  marks.any t.isMark

/-- Operators that an operand has to follow. -/
def operators : List Char :=
  ['=', '+', '-', '*', '/', '%', '&', '|', '^', '<', '!', '~', '.', '?']

/-- Marks that end an operand. -/
def ends : List Char :=
  [';', ')', ']', '\x7d', ',']

/-- The token is a value that is written out. -/
def isLiteral (t : Token) : Bool :=
  t.kind = .number || t.kind = .literal

/-- The words that a value may follow. -/
def valueWords : List String :=
  ["return", "case", "throw", "yield", "assert", "else", "do", "when", "default"]

/-- The words for types that are no classes. -/
def primitiveWords : List String :=
  ["boolean", "byte", "short", "int", "long", "char", "float", "double"]

/-- A token cannot be followed by the next one, given the one before it. -/
def isClash (before : Option Token) (t next : Token) : Bool :=
  let isDoubled : Bool :=
    match before with
    | some b => (t.isMark '+' || t.isMark '-') && b.kind = .mark && b.text = t.text && t.isAdjacent
    | none => false
  let isStar : Bool :=
    match before with
    | some b => t.isMark '*' && b.isMark '.' && next.isMark ';'
    | none => false
  let isWildcard := t.isMark '?' && next.isMark ','
  (isOneOf operators t && isOneOf ends next && !isDoubled && !isStar && !isWildcard)
    || ((t.isMark '(' || t.isMark ',') && next.isMark ',')
    || (t.isMark ',' && next.isMark ')')
    || (isLiteral t && (isLiteral next || (next.kind = .word && next.text ≠ "instanceof")))
    || (t.kind = .word && isLiteral next && !valueWords.contains t.text)
    || (t.kind = .word && primitiveWords.contains t.text && isOneOf ['=', ';', ','] next)

/-- Two neighbours clash, given the token before them. -/
def anyClash : Option Token → List Token → Bool
  | before, t :: next :: rest => isClash before t next || anyClash (some t) (next :: rest)
  | _, _ => false

/-! ### Blocks -/

/-- An open bracket: whether it is the brace of a block, and whether a semicolon has stood
directly within it. -/
structure Opened where
  isBlock : Bool
  hasStatement : Bool

/-- The words that a block may follow. -/
def blockWords : List String :=
  ["else", "try", "do", "finally", "static"]

/-- The tokens before a brace, the nearest first, show that it opens a block. -/
def opensBlock : List Token → Bool
  | [] => false
  | b :: bs =>
    let isArrow : Bool :=
      match bs with
      | dash :: _ => b.isMark '>' && b.isAdjacent && dash.isMark '-'
      | [] => false
    isArrow || b.isMark ')' || blockWords.any b.isWord

/-- The last statement of some block does not end, given the open brackets and the tokens
before, the nearest first. -/
def anyUnended : List Opened → List Token → List Token → Bool
  | _, _, [] => false
  | opened, before, t :: ts =>
    if t.isMark '\x7d' then
      let isUnended : Bool :=
        match opened, before with
        | o :: _, b :: _ => (o.isBlock || o.hasStatement) && !isOneOf [';', '\x7b', '\x7d', ':'] b
        | _, _ => false
      isUnended || anyUnended (opened.drop 1) (t :: before) ts
    else if (closing? t).isSome then
      anyUnended (⟨t.isMark '\x7b' && opensBlock before, false⟩ :: opened) (t :: before) ts
    else if t.isMark ')' || t.isMark ']' then anyUnended (opened.drop 1) (t :: before) ts
    else
      let opened :=
        match opened with
        | o :: os => { o with hasStatement := o.hasStatement || t.isMark ';' } :: os
        | [] => []
      anyUnended opened (t :: before) ts

end SyntaxCheck

/-- The tokens have a fault in their syntax. -/
def hasSyntaxFault (ts : List Token) : Bool :=
  !SyntaxCheck.bracketsMatch [] ts || SyntaxCheck.anyClash none ts
    || SyntaxCheck.anyUnended [] [] ts

end ServiceAtlas.Java
