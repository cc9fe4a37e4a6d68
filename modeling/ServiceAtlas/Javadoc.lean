/-
Documentation comments.

A documentation comment opens with a slash and two asterisks.  Its lines are stripped of
the asterisk they begin with and of one blank behind it.  A line that then begins with an
at sign and a word opens a block, and everything before the first block is the
description.  Inline tags are replaced by their text.
-/
import ServiceAtlas.Declaration.Documentation
import ServiceAtlas.Text.Lines
import ServiceAtlas.Text.Split
import ServiceAtlas.Text.Class

namespace ServiceAtlas.Javadoc

open ServiceAtlas.Text

/-- The comment is a documentation comment. -/
def isJavadoc (comment : List Char) : Bool :=
  "/**".toList.isPrefixOf comment && !"/**/".toList.isPrefixOf comment

/-- The text between the opening and the closing mark. -/
def body (comment : List Char) : List Char :=
  let rest := comment.drop 3
  if "*/".toList.isSuffixOf rest then rest.take (rest.length - 2) else rest

/-- A line without its leading asterisk, one blank behind it, and the blanks around. -/
def lineText (line : List Char) : List Char :=
  let line :=
    match trim line with
    | '*' :: ' ' :: rest => rest
    | '*' :: rest => rest
    | line => line
  trimEndWhere isBlank line

/-- The name and the first text of a block, if the line opens one. -/
def blockStart? : List Char → Option (List Char × List Char)
  | '@' :: rest =>
    match rest.takeWhile isWordChar with
    | [] => none
    | name => some (name, (rest.dropWhile isWordChar).dropWhile isBlank)
  | _ => none

/-- A block: the word behind its at sign, and its text line by line. -/
structure Block where
  name : List Char
  parts : List (List Char)

/-- The lines before the first block, and the blocks. -/
def sections : List (List Char) → List (List Char) × List Block
  | [] => ([], [])
  | line :: rest =>
    let (leading, blocks) := sections rest
    match blockStart? line with
    | some (name, text) => ([], ⟨name, text :: leading⟩ :: blocks)
    | none => (line :: leading, blocks)

/-- The words that inline tags are made with. -/
def inlineWords : List (List Char) :=
  ["link".toList, "linkplain".toList, "code".toList, "literal".toList, "value".toList]

/-- The text of an inline tag that begins here and the number of characters it takes. -/
def inlineTag? (cs : List Char) : Option (List Char × Nat) :=
  inlineWords.findSome? fun word =>
    let opening := '\x7b' :: '@' :: word
    let inner := cs.drop opening.length
    if opening.isPrefixOf cs && (inner.head?.map isBlank).getD false then
      match cut '\x7d' inner with
      | (text, some _) => some (trim text, opening.length + text.length + 1)
      | (_, none) => none
    else none

/-- The text with inline tags replaced by their text, its first `skip` characters dropped. -/
def withoutInlineTags (skip : Nat) : List Char → List Char
  | [] => []
  | c :: cs =>
    match skip with
    | n + 1 => withoutInlineTags n cs
    | 0 =>
      match inlineTag? (c :: cs) with
      | some (text, length) => text ++ withoutInlineTags (length - 1) cs
      | none => c :: withoutInlineTags 0 cs

/-- The text with at most two line feeds in a row, `run` of them standing before it. -/
def shortenBreaks (run : Nat) : List Char → List Char
  | [] => []
  | c :: cs =>
    if c = '\n' then
      if run < 2 then c :: shortenBreaks (run + 1) cs else shortenBreaks run cs
    else c :: shortenBreaks 0 cs

/-- Text as it is kept: inline tags replaced, at most one blank line in a row, and no
blanks around. -/
def clean (cs : List Char) : List Char :=
  trim (shortenBreaks 0 (withoutInlineTags 0 cs))

/-- The text of a block on one line. -/
def Block.text (b : Block) : List Char :=
  clean (squeeze (join [' '] b.parts))

/-- The documentation with one more block taken in; the last of equal blocks counts. -/
def addBlock (d : Documentation) (b : Block) : Documentation :=
  let text := b.text
  if b.name = "param".toList then
    match cut ' ' text with
    | ([], _) => d
    | (name, rest) =>
      let value := String.ofList (trim (rest.getD []))
      { d with params := d.params.insert (String.ofList name) value }
  else if b.name = "return".toList then { d with returns := String.ofList text }
  else if b.name = "deprecated".toList then { d with deprecated := some (String.ofList text) }
  else if b.name = "since".toList then { d with since := String.ofList text }
  else d

/-- The documentation that a comment holds; other comments hold none. -/
def parse (comment : List Char) : Documentation :=
  if isJavadoc comment then
    let (description, blocks) := sections ((lines (body comment)).map lineText)
    let start := { Documentation.none with
      description := String.ofList (clean (unlines description)) }
    blocks.foldl addBlock start
  else .none

/-- The documentation in the last documentation comment of a list. -/
def nearest (comments : List String) : Documentation :=
  match comments.reverse.find? fun c => isJavadoc c.toList with
  | some comment => parse comment.toList
  | none => .none

end ServiceAtlas.Javadoc
