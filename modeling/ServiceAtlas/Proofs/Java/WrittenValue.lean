/-
Names and the values of attributes as they are written.

A name is an identifier that is no keyword of any kind.  A value is a string or integer
literal, a dotted name, or a list of these in braces.  It is a single piece: white space in it
is part of its text, which is kept.
-/
import ServiceAtlas.Text.Split
import ServiceAtlas.Proofs.Java.Spelling

namespace ServiceAtlas.Java.Written

/-! ### Names -/

/-- The words that are no names: keywords, literals, and keywords in some places only. -/
def reservedWords : List String :=
  ["abstract", "assert", "boolean", "break", "byte", "case", "catch", "char", "class", "const",
    "continue", "default", "do", "double", "else", "enum", "extends", "final", "finally",
    "float", "for", "goto", "if", "implements", "import", "instanceof", "int", "interface",
    "long", "native", "new", "package", "private", "protected", "public", "return", "short",
    "static", "strictfp", "super", "switch", "synchronized", "this", "throw", "throws",
    "transient", "try", "void", "volatile", "while", "_", "true", "false", "null", "exports",
    "module", "open", "opens", "permits", "provides", "record", "requires", "sealed", "to",
    "transitive", "uses", "var", "when", "with", "yield"]

/-- A name. -/
structure Name where
  text : String
  admits : isName text.toList = true
  isFree : text ∉ reservedWords

/-- The token that a name is. -/
def Name.lexeme (n : Name) : Lexeme :=
  .word n.text n.admits

/-- A name as a piece. -/
def Name.piece (n : Name) : Piece :=
  .of n.lexeme

/-- A name and the names that qualify it. -/
structure Qualified where
  qualifier : List Name
  name : Name

namespace Qualified

/-- The pieces of a qualified name, given part by part. -/
def piecesOf (name : Name) : List Name → List Piece
  | [] => [name.piece]
  | q :: qs => q.piece :: .of .dot :: piecesOf name qs

/-- A qualified name as it is written. -/
def pieces (q : Qualified) : List Piece :=
  piecesOf q.name q.qualifier

/-- The names joined with dots. -/
def text (q : Qualified) : String :=
  Text.joined "." (q.qualifier.map Name.text ++ [q.name.text])

end Qualified

/-! ### Values of attributes -/

/-- A literal or a dotted name. -/
inductive Atom where
  | text (parts : List LiteralPart)
  | integer (digits : String) (h : isInteger digits.toList = true)
  | name (first : Name) (others : List Name)

namespace Atom

/-- The first token. -/
def first : Atom → Lexeme
  | text parts => ⟨.literal, String.ofList (literalText parts), parts, by rw [String.toList_ofList]⟩
  | integer digits h => ⟨.number, digits, h⟩
  | name first _ => first.lexeme

/-- A dot and a name, without gaps. -/
def furtherName (n : Name) : List Token :=
  [Lexeme.dot.token [], n.lexeme.token []]

/-- The tokens behind the first one. -/
def tail : Atom → List Token
  | text _ => []
  | integer _ _ => []
  | name _ others => others.flatMap furtherName

end Atom

/-- An atom with white space around it. -/
structure Padded where
  before : Spaces
  atom : Atom
  behind : Spaces

/-- The value of an attribute. -/
inductive Value where
  | atom (a : Atom)
  | empty (inner : Spaces)
  | list (first : Padded) (others : List Padded)

namespace Value

/-- The tokens of a padded atom and the mark that follows it. -/
def paddedTokens (p : Padded) (closer : Lexeme) : List Token :=
  p.atom.first.token p.before.gaps :: (p.atom.tail ++ [closer.token p.behind.gaps])

/-- The tokens behind the opening brace of a list. -/
def listTokens (p : Padded) : List Padded → List Token
  | [] => paddedTokens p .closeBrace
  | q :: qs => paddedTokens p .comma ++ listTokens q qs

/-- The first token. -/
def first : Value → Lexeme
  | atom a => a.first
  | empty _ => .openBrace
  | list _ _ => .openBrace

/-- The tokens behind the first one. -/
def tail : Value → List Token
  | atom a => a.tail
  | empty inner => [Lexeme.closeBrace.token inner.gaps]
  | list p ps => listTokens p ps

end Value

/-! ### Values do not run together -/

theorem isWritten_token_spaces (l : Lexeme) (s : Spaces) : (l.token s.gaps).IsWritten :=
  l.isWritten_token ⟨s, none⟩

theorem isWritten_token_nil (l : Lexeme) : (l.token []).IsWritten :=
  isWritten_token_spaces l .none

/-- A mark other than a dot may precede anything. -/
theorem mayPrecede_of_mark {c : Char} (h : c ∈ separators) (hdot : c ≠ '.') (gaps : List Gap)
    (u : Token) : ((Lexeme.mark c h).token gaps).MayPrecede u := by
  intro d _
  simp [Lexeme.mark, Lexeme.token, TokenKind.mayPrecede, hdot]

/-- A comma or a brace may follow anything. -/
theorem mayPrecede_closer {c : Char} (h : c ∈ separators) (hc : c = ',' ∨ c = '\x7d') (s : Spaces)
    (t : Token) : t.MayPrecede ((Lexeme.mark c h).token s.gaps) := by
  intro d hd
  simp only [Token.fullText, Lexeme.token, Lexeme.mark, Spaces.text_gaps,
    String.toList_singleton, List.head?_append, Option.mem_def, Option.or_eq_some_iff] at hd
  rcases hd with hspace | ⟨-, hself⟩
  · exact mayPrecede_gap (.inl (s.property d (List.mem_of_mem_head? hspace))) _ _
  · obtain rfl : c = d := Option.some.inj hself
    refine mayPrecede_apart ?_ _ _
    rcases hc with rfl | rfl
    · decide
    · decide

theorem Name.mayPrecede_dot (n : Name) (gaps : List Gap) :
    (n.lexeme.token gaps).MayPrecede (Lexeme.dot.token []) := by
  rintro c hc
  cases hc
  show (!Text.isNamePart '.') = true
  decide

theorem Name.dot_mayPrecede (n : Name) (gaps : List Gap) :
    (Lexeme.dot.token gaps).MayPrecede (n.lexeme.token []) := by
  intro c hc
  have hname := n.admits
  cases htext : n.text.toList with
  | nil =>
      rw [htext] at hname
      cases hname
  | cons d ds =>
      simp only [Token.fullText, Lexeme.token, Name.lexeme, Lexeme.word, htext] at hc
      obtain rfl : d = c := Option.some.inj hc
      rw [htext, isName, Bool.and_eq_true] at hname
      have hdigit : Text.isAsciiDigit d = false := by
        by_contra hdigit
        rw [isNameStart_of_isAsciiDigit (by simpa using hdigit)] at hname
        exact absurd hname.1 (by decide)
      simp [Lexeme.mark, Lexeme.token, TokenKind.mayPrecede, hdigit]

theorem Atom.isWritten_tail (a : Atom) : ∀ t ∈ a.tail, t.IsWritten := by
  cases a with
  | text => exact nofun
  | integer => exact nofun
  | name first others =>
      intro t ht
      obtain ⟨n, -, hn⟩ := List.mem_flatMap.mp ht
      rcases List.mem_cons.mp hn with rfl | hn
      · exact isWritten_token_nil _
      · rw [List.mem_singleton.mp hn]
        exact isWritten_token_nil _

theorem Atom.isChain_names (others : List Name) :
    ∀ (first : Name) (gaps : List Gap),
      (first.lexeme.token gaps :: others.flatMap furtherName).IsChain Token.MayPrecede := by
  induction others with
  | nil => exact fun _ _ => .singleton _
  | cons n others ih =>
      intro first gaps
      exact .cons_cons (first.mayPrecede_dot gaps) (.cons_cons (n.dot_mayPrecede []) (ih n []))

theorem Atom.isChain (a : Atom) (gaps : List Gap) :
    (a.first.token gaps :: a.tail).IsChain Token.MayPrecede := by
  cases a with
  | text => exact .singleton _
  | integer => exact .singleton _
  | name first others => exact isChain_names others first gaps

namespace Value

theorem isWritten_paddedTokens (p : Padded) (closer : Lexeme) :
    ∀ t ∈ paddedTokens p closer, t.IsWritten := by
  intro t ht
  rcases List.mem_cons.mp ht with rfl | ht
  · exact isWritten_token_spaces _ _
  · rcases List.mem_append.mp ht with htail | hcloser
    · exact p.atom.isWritten_tail t htail
    · rw [List.mem_singleton.mp hcloser]
      exact isWritten_token_spaces _ _

theorem isWritten_listTokens (qs : List Padded) :
    ∀ p, ∀ t ∈ listTokens p qs, t.IsWritten := by
  induction qs with
  | nil => exact fun p => isWritten_paddedTokens p _
  | cons q qs ih =>
      intro p t ht
      rcases List.mem_append.mp ht with hp | hmore
      · exact isWritten_paddedTokens p _ t hp
      · exact ih q t hmore

/-- The tokens of a padded atom, between a mark and what may follow its closing mark. -/
theorem isChain_paddedTokens (p : Padded) {opener closer : Char} (hopener : opener ∈ separators)
    (hdot : opener ≠ '.') (hmem : closer ∈ separators) (hcloser : closer = ',' ∨ closer = '\x7d')
    (gaps : List Gap) {rest : List Token}
    (hrest : ((Lexeme.mark closer hmem).token p.behind.gaps :: rest).IsChain Token.MayPrecede) :
    ((Lexeme.mark opener hopener).token gaps :: (paddedTokens p (.mark closer hmem) ++ rest)).IsChain
      Token.MayPrecede := by
  have hatom := p.atom.isChain p.before.gaps
  have hsplit : (Lexeme.mark opener hopener).token gaps
      :: (paddedTokens p (.mark closer hmem) ++ rest)
      = ((Lexeme.mark opener hopener).token gaps
          :: p.atom.first.token p.before.gaps :: p.atom.tail)
        ++ ((Lexeme.mark closer hmem).token p.behind.gaps :: rest) := by
    simp [paddedTokens]
  rw [hsplit]
  refine List.isChain_append.mpr ⟨?_, hrest, ?_⟩
  · exact .cons_cons (mayPrecede_of_mark hopener hdot gaps _) hatom
  · intro t _ u hu
    cases hu
    exact mayPrecede_closer hmem hcloser p.behind t

theorem isChain_listTokens (qs : List Padded) :
    ∀ (p : Padded) {opener : Char} (hopener : opener ∈ separators), opener ≠ '.' →
      ∀ gaps, ((Lexeme.mark opener hopener).token gaps :: listTokens p qs).IsChain
        Token.MayPrecede := by
  induction qs with
  | nil =>
      intro p opener hopener hdot gaps
      have h := isChain_paddedTokens p hopener hdot (by decide : '\x7d' ∈ separators) (.inr rfl)
        gaps (.singleton _)
      rwa [List.append_nil] at h
  | cons q qs ih =>
      intro p opener hopener hdot gaps
      exact isChain_paddedTokens p hopener hdot (by decide) (.inl rfl) gaps
        (ih q (by decide) (by decide) _)

/-- A value as a piece; all gaps in it are its own. -/
def piece (v : Value) : Piece where
  comment := none
  first := v.first
  tail := v.tail
  written := by
    cases v with
    | atom a => exact a.isWritten_tail
    | empty inner => exact List.forall_mem_singleton.mpr (isWritten_token_spaces _ inner)
    | list p ps => exact isWritten_listTokens ps p
  chain := by
    cases v with
    | atom a => exact a.isChain []
    | empty inner =>
        exact .cons_cons (mayPrecede_of_mark (by decide) (by decide) _ _) (.singleton _)
    | list p ps => exact isChain_listTokens ps p (by decide) (by decide) []

/-- The source text of a value. -/
def text (v : Value) : String :=
  sourceText (v.piece.run [])

end Value

end ServiceAtlas.Java.Written
