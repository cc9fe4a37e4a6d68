/-
Pieces of source text, and the ways to lay them out.

A piece is a token, perhaps with further ones behind it whose gaps are part of what it says,
as in the value of an attribute.  A layout puts white space in front of every piece, and a
documentation comment where the piece has one.  Where two pieces would run together, it does
not leave the white space out.

`Spells` says which tokens pieces become under some layout.  `Reads` leaves open what stands
in front of the first one, as readers do.
-/
import ServiceAtlas.Proofs.Java.Lexing

namespace ServiceAtlas.Java

/-! ### Pieces -/

/-- A token apart from the gap in front of it. -/
structure Lexeme where
  kind : TokenKind
  text : String
  admits : kind.Admits text.toList

namespace Lexeme

/-- A separator. -/
def mark (c : Char) (h : c ∈ separators) : Lexeme :=
  ⟨.mark, String.singleton c, c, h, by simp⟩

/-- Separators by their names. -/
abbrev comma : Lexeme := mark ',' (by decide)
abbrev semicolon : Lexeme := mark ';' (by decide)
abbrev dot : Lexeme := mark '.' (by decide)
abbrev equals : Lexeme := mark '=' (by decide)
abbrev atSign : Lexeme := mark '@' (by decide)
abbrev question : Lexeme := mark '?' (by decide)
abbrev hyphen : Lexeme := mark '-' (by decide)
abbrev less : Lexeme := mark '<' (by decide)
abbrev greater : Lexeme := mark '>' (by decide)
abbrev ampersand : Lexeme := mark '&' (by decide)
abbrev asterisk : Lexeme := mark '*' (by decide)
abbrev openParen : Lexeme := mark '(' (by decide)
abbrev closeParen : Lexeme := mark ')' (by decide)
abbrev openBracket : Lexeme := mark '[' (by decide)
abbrev closeBracket : Lexeme := mark ']' (by decide)
abbrev openBrace : Lexeme := mark '\x7b' (by decide)
abbrev closeBrace : Lexeme := mark '\x7d' (by decide)

/-- A name or a keyword. -/
def word (w : String) (h : isName w.toList = true) : Lexeme :=
  ⟨.word, w, h⟩

/-- The token with the given gaps. -/
def token (l : Lexeme) (gaps : List Gap) : Token :=
  ⟨gaps, l.kind, l.text⟩

theorem isWritten_token (l : Lexeme) (s : Spacing) : (l.token s.gaps).IsWritten :=
  ⟨⟨s, rfl⟩, l.admits⟩

end Lexeme

/-- A token and the tokens that belong to it, with a comment that documents what begins
here. -/
structure Piece where
  comment : Option DocComment
  first : Lexeme
  tail : List Token
  written : ∀ t ∈ tail, t.IsWritten
  chain : (first.token [] :: tail).IsChain Token.MayPrecede

namespace Piece

/-- A piece of one token. -/
def of (l : Lexeme) : Piece :=
  ⟨none, l, [], nofun, .singleton _⟩

/-- A separator as a piece. -/
def mark (c : Char) (h : c ∈ separators) : Piece :=
  of (.mark c h)

/-- A word as a piece. -/
def word (w : String) (h : isName w.toList = true) : Piece :=
  of (.word w h)

/-- The tokens of a piece behind the given gaps. -/
def run (p : Piece) (gaps : List Gap) : List Token :=
  p.first.token gaps :: p.tail

theorem isChain_run (p : Piece) (gaps : List Gap) : (p.run gaps).IsChain Token.MayPrecede := by
  have h := p.chain
  unfold run
  cases htail : p.tail with
  | nil => exact .singleton _
  | cons t ts =>
      rw [htail] at h
      obtain ⟨hfirst, hmore⟩ := List.isChain_cons_cons.mp h
      exact List.isChain_cons_cons.mpr ⟨hfirst, hmore⟩

end Piece

/-- Pieces with a comment in front of the first one. -/
def headed (comment : Option DocComment) : List Piece → List Piece
  | [] => []
  | p :: ps => { p with comment := comment } :: ps

/-- The lists one after the other, with a piece between neighbours. -/
def separated (sep : Piece) : List (List Piece) → List Piece
  | [] => []
  | [ps] => ps
  | ps :: qs :: rest => ps ++ sep :: separated sep (qs :: rest)

/-! ### Layouts -/

/-- A choice of white space: in front of each piece, behind the comment that may stand there,
and behind the last piece. -/
structure Layout where
  before : Nat → Spaces
  behind : Nat → Spaces
  last : Spaces

namespace Layout

/-- The token and the piece would run together. -/
def clash (previous : Option Token) (p : Piece) : Bool :=
  match previous, p.first.text.toList.head? with
  | some t, some c => !t.kind.mayPrecede t.text.toList c
  | _, _ => false

/-- What stands in front of the piece with the given number. -/
def spacing (l : Layout) (i : Nat) (previous : Option Token) (p : Piece) : Spacing where
  before :=
    if (l.before i).val = [] ∧ p.comment = none ∧ clash previous p = true then .single
    else l.before i
  comment := p.comment.map fun c => (c, l.behind i)

/-- The tokens of pieces, the first of which has the given number and follows the given
token. -/
def tokens (l : Layout) (i : Nat) (previous : Option Token) : List Piece → List Token
  | [] => []
  | p :: ps =>
    let run := p.run (l.spacing i previous p).gaps
    run ++ l.tokens (i + 1) run.getLast? ps

/-- The source text of pieces. -/
def text (l : Layout) (ps : List Piece) : List Char :=
  (l.tokens 0 none ps).flatMap Token.fullText ++ l.last.val

theorem isWritten_of_mem_tokens (l : Layout) (ps : List Piece) :
    ∀ i previous, ∀ t ∈ l.tokens i previous ps, t.IsWritten := by
  induction ps with
  | nil => exact fun _ _ _ h => nomatch h
  | cons p ps ih =>
      intro i previous t ht
      rcases List.mem_append.mp ht with hrun | hmore
      · rcases List.mem_cons.mp hrun with rfl | htail
        · exact p.first.isWritten_token _
        · exact p.written t htail
      · exact ih _ _ t hmore

theorem head?_text_gaps {s : Spacing} {c : Char} (h : c ∈ (s.gaps.flatMap Gap.text).head?) :
    isSpace c = true ∨ c = '/' := by
  have hbefore : ∀ cs, c ∈ (s.before.val ++ cs).head? → isSpace c = true ∨ c ∈ cs.head? := by
    intro cs hc
    cases hval : s.before.val with
    | nil =>
        rw [hval] at hc
        exact .inr hc
    | cons d ds =>
        rw [hval] at hc
        cases hc
        exact .inl (s.before.property c (by simp [hval]))
  obtain ⟨before, comment⟩ := s
  cases comment with
  | none =>
      rw [Spacing.gaps, Spaces.text_gaps, ← List.append_nil before.val] at h
      exact .inl ((hbefore [] h).resolve_right nofun)
  | some cb =>
      rw [Spacing.gaps, List.flatMap_append, Spaces.text_gaps] at h
      refine (hbefore _ h).imp_right fun hc => ?_
      cases hc
      rfl

/-- A piece does not run together with the token in front of it. -/
theorem mayPrecede_spacing (l : Layout) (i : Nat) (t : Token) (p : Piece) :
    t.MayPrecede (p.first.token (l.spacing i (some t) p).gaps) := by
  intro c hc
  rw [Token.fullText, Lexeme.token, List.head?_append, Option.mem_def, Option.or_eq_some_iff] at hc
  rcases hc with hgap | ⟨hnone, hfirst⟩
  · exact mayPrecede_gap (head?_text_gaps hgap) _ _
  · -- Nothing stands in between, so the layout has seen no clash.
    have hempty : (l.spacing i (some t) p).gaps.flatMap Gap.text = [] :=
      List.head?_eq_none_iff.mp hnone
    have hcomment : p.comment = none := by
      by_contra hsome
      obtain ⟨d, hd⟩ := Option.ne_none_iff_exists'.mp hsome
      simp [Spacing.gaps, spacing, hd, Gap.text, DocComment.text] at hempty
    simp only [Spacing.gaps, spacing, hcomment, Option.map_none, Spaces.text_gaps] at hempty
    split at hempty
    · cases hempty
    · rename_i hclash
      simp only [hempty, true_and, clash, hfirst, Bool.not_eq_true', Bool.not_eq_false] at hclash
      exact hclash

theorem isChain_tokens (l : Layout) (ps : List Piece) :
    ∀ i previous, (l.tokens i previous ps).IsChain Token.MayPrecede
      ∧ ∀ t ∈ previous, ∀ u ∈ (l.tokens i previous ps).head?, t.MayPrecede u := by
  induction ps with
  | nil => exact fun _ _ => ⟨.nil, fun _ _ _ h => nomatch h⟩
  | cons p ps ih =>
      intro i previous
      obtain ⟨hchain, hlink⟩ := ih (i + 1) (p.run (l.spacing i previous p).gaps).getLast?
      constructor
      · exact List.isChain_append.mpr ⟨p.isChain_run _, hchain, hlink⟩
      · rintro t rfl u hu
        cases hu
        exact l.mayPrecede_spacing i t p

/-- Source texts are cut into the tokens of their pieces. -/
theorem tokens_text (l : Layout) (ps : List Piece) :
    Java.tokens (l.text ps) = l.tokens 0 none ps :=
  tokens_fullText (l.isWritten_of_mem_tokens ps 0 none) (l.isChain_tokens ps 0 none).1 l.last

end Layout

/-! ### Spellings -/

/-- The tokens are what the pieces become under some layout. -/
inductive Spells : List Piece → List Token → Prop
  | nil : Spells [] []
  | cons {p : Piece} {ps : List Piece} {s : Spacing} {ts : List Token}
      (hs : s.comment.map Prod.fst = p.comment) (hps : Spells ps ts) :
      Spells (p :: ps) (p.run s.gaps ++ ts)

/-- The tokens are what the pieces become, apart from the gap in front of the first one. -/
inductive Reads : List Piece → List Token → Prop
  | nil : Reads [] []
  | cons {p : Piece} {ps : List Piece} {gaps : List Gap} {ts : List Token}
      (hps : Spells ps ts) : Reads (p :: ps) (p.run gaps ++ ts)

theorem Layout.spells_tokens (l : Layout) (ps : List Piece) :
    ∀ i previous, Spells ps (l.tokens i previous ps) := by
  induction ps with
  | nil => exact fun _ _ => .nil
  | cons p ps ih =>
      intro i previous
      refine .cons ?_ (ih _ _)
      cases hc : p.comment <;> simp [Layout.spacing, hc]

theorem spells_cons_iff {p : Piece} {ps : List Piece} {ts : List Token} :
    Spells (p :: ps) ts ↔ ∃ (s : Spacing) (us : List Token),
      s.comment.map Prod.fst = p.comment ∧ Spells ps us ∧ ts = p.run s.gaps ++ us := by
  constructor
  · intro h
    cases h with
    | cons hs hps => exact ⟨_, _, hs, hps, rfl⟩
  · rintro ⟨s, us, hs, hps, rfl⟩
    exact .cons hs hps

theorem reads_cons_iff {p : Piece} {ps : List Piece} {ts : List Token} :
    Reads (p :: ps) ts ↔ ∃ gaps us, Spells ps us ∧ ts = p.run gaps ++ us := by
  constructor
  · intro h
    cases h with
    | cons hps => exact ⟨_, _, hps, rfl⟩
  · rintro ⟨gaps, us, hps, rfl⟩
    exact .cons hps

theorem Spells.reads {ps : List Piece} {ts : List Token} (h : Spells ps ts) : Reads ps ts := by
  cases h with
  | nil => exact .nil
  | cons _ hps => exact .cons hps

theorem spells_append_iff {ps qs : List Piece} :
    ∀ {ts : List Token}, Spells (ps ++ qs) ts ↔
      ∃ us vs, Spells ps us ∧ Spells qs vs ∧ ts = us ++ vs := by
  induction ps with
  | nil =>
      intro ts
      constructor
      · exact fun h => ⟨[], ts, .nil, h, rfl⟩
      · rintro ⟨us, vs, ⟨⟩, hqs, rfl⟩
        exact hqs
  | cons p ps ih =>
      intro ts
      constructor
      · intro h
        obtain ⟨s, us, hs, hps, rfl⟩ := spells_cons_iff.mp h
        obtain ⟨vs, ws, hvs, hws, rfl⟩ := ih.mp hps
        exact ⟨_, ws, .cons hs hvs, hws, by rw [List.append_assoc]⟩
      · rintro ⟨us, vs, hus, hvs, rfl⟩
        obtain ⟨s, ws, hs, hws, rfl⟩ := spells_cons_iff.mp hus
        rw [List.append_assoc]
        exact .cons hs (ih.mpr ⟨ws, vs, hws, hvs, rfl⟩)

theorem Reads.append {ps qs : List Piece} {ts : List Token} (h : Reads (ps ++ qs) ts) :
    ∃ us vs, Reads ps us ∧ Reads qs vs ∧ ts = us ++ vs := by
  cases ps with
  | nil => exact ⟨[], ts, .nil, h, rfl⟩
  | cons p ps =>
      obtain ⟨gaps, us, hps, rfl⟩ := reads_cons_iff.mp h
      obtain ⟨vs, ws, hvs, hws, rfl⟩ := spells_append_iff.mp hps
      exact ⟨_, ws, .cons hvs, hws.reads, by rw [List.append_assoc]⟩

/-- The comments in front of a token are those of its piece. -/
theorem comments_spacing {s : Spacing} {comment : Option DocComment}
    (h : s.comment.map Prod.fst = comment) (l : Lexeme) :
    (l.token s.gaps).comments = comment.toList.map fun c => String.ofList c.text := by
  subst h
  obtain ⟨before, comment⟩ := s
  have hblank : ∀ b : Spaces, b.gaps.filterMap Gap.comment? = [] := by
    rintro ⟨cs, hcs⟩
    cases cs <;> rfl
  cases comment with
  | none => exact hblank before
  | some cb =>
      show (before.gaps ++ .comment cb.1.text :: cb.2.gaps).filterMap Gap.comment? = _
      rw [List.filterMap_append, hblank, List.nil_append, List.filterMap_cons, Gap.comment?]
      simp [hblank]

/-- Pieces with a comment are the pieces read, the comment standing in front. -/
theorem Spells.headed {comment : Option DocComment} {ps : List Piece} {ts : List Token}
    (h : Spells (headed comment ps) ts) :
    Reads ps ts ∧ ∀ t ∈ ts.head?, t.comments = comment.toList.map fun c => String.ofList c.text := by
  cases ps with
  | nil =>
      cases h
      exact ⟨.nil, nofun⟩
  | cons p ps =>
      obtain ⟨s, us, hs, hps, rfl⟩ := spells_cons_iff.mp h
      refine ⟨.cons hps, ?_⟩
      rintro t ht
      cases ht
      exact comments_spacing hs p.first

end ServiceAtlas.Java
