/-
Names and annotations are read back.

A name is kept as it is written, white space and all; without the white space it is the dotted
name, whose last part counts.  The arguments of an annotation are found between its
parentheses and taken apart at commas, which the brackets of a value and the quotes of a
literal hide.
-/
import ServiceAtlas.Proofs.Dotted
import ServiceAtlas.Proofs.Java.Grammar
import ServiceAtlas.Proofs.Trimming

namespace ServiceAtlas.Java

open Reader Grammar Text
open Written (Name Value Atom Padded Annotation Arguments Modifier)

/-! ### Blanks in names -/

theorem isNamePart_of_isBlank {c : Char} (h : isBlank c = true) : isNamePart c = false := by
  have hcodes : ∀ n ∈ blankCodes, isNamePart (Char.ofNat n) = false := by decide +kernel
  rw [← Char.ofNat_toNat c]
  exact hcodes _ (mem_blankCodes h)

theorem isBlank_of_isSpace {c : Char} (h : isSpace c = true) : isBlank c = true := by
  have hchars : ∀ d ∈ spaceChars, isBlank d = true := forall_mem_of_all (by decide)
  exact hchars c (mem_spaceChars h)

namespace Grammar.Identifier

theorem isNamePart_of_mem (n : Identifier) {c : Char} (h : c ∈ n.text.toList) : isNamePart c = true :=
  isNamePart_of_isName n.admits c h

theorem isBlank_of_mem (n : Identifier) {c : Char} (h : c ∈ n.text.toList) : isBlank c = false := by
  by_contra hblank
  have hpart := n.isNamePart_of_mem h
  rw [isNamePart_of_isBlank (by simpa using hblank)] at hpart
  cases hpart

theorem dot_not_mem (n : Identifier) : '.' ∉ n.text.toList := fun h =>
  absurd (n.isNamePart_of_mem h) (by decide)

end Grammar.Identifier

/-! ### Qualified names -/

/-- A text without the blanks in it. -/
def unblank (cs : List Char) : List Char :=
  cs.filter fun c => !isBlank c

theorem unblank_append (cs ds : List Char) : unblank (cs ++ ds) = unblank cs ++ unblank ds :=
  List.filter_append ..

theorem unblank_spaces (s : Spaces) : unblank s.val = [] :=
  List.filter_eq_nil_iff.mpr fun c hc => by simp [isBlank_of_isSpace (s.property c hc)]

theorem unblank_name (n : Identifier) : unblank n.text.toList = n.text.toList :=
  List.filter_eq_self.mpr fun c hc => by simp [n.isBlank_of_mem hc]

/-- White space between tokens is all that is lost with the blanks in a run of them. -/
theorem unblank_fullText {ls : List Lexeme} :
    ∀ {ts : Tokens}, Spells (ls.map .of) ts →
      unblank (ts.flatMap Token.fullText) = ls.flatMap fun l => unblank l.text.toList := by
  induction ls with
  | nil =>
      intro ts h
      cases h
      rfl
  | cons l ls ih =>
      intro ts h
      obtain ⟨s, us, hus, rfl⟩ := spells_of_iff.mp h
      rw [List.flatMap_cons, List.flatMap_cons, unblank_append, ih hus, fullText_spaces,
        unblank_append, unblank_spaces, List.nil_append]

namespace Grammar.Path

/-- The tokens of a path. -/
def lexemesOf (name : Identifier) : List Identifier → List Lexeme
  | [] => [name.lexeme]
  | q :: qs => q.lexeme :: .dot :: lexemesOf name qs

theorem piecesOf_eq (name : Identifier) (qs : List Identifier) :
    piecesOf name qs = (lexemesOf name qs).map .of := by
  induction qs with
  | nil => rfl
  | cons q qs ih =>
      rw [piecesOf, ih]
      rfl

/-- The characters of a path. -/
def chars (p : Path) : List Char :=
  (lexemesOf p.name p.qualifier).flatMap fun l => unblank l.text.toList

theorem chars_cons (q : Identifier) (qs : List Identifier) (name : Identifier) :
    (Path.mk (q :: qs) name).chars = q.text.toList ++ '.' :: (Path.mk qs name).chars := by
  show unblank q.text.toList ++ (unblank ['.'] ++ (Path.mk qs name).chars) = _
  rw [unblank_name]
  rfl

theorem chars_nil (name : Identifier) : (Path.mk [] name).chars = name.text.toList := by
  show unblank name.text.toList ++ [] = _
  rw [unblank_name, List.append_nil]

theorem chars_eq (p : Path) : p.chars = p.text.toList := by
  obtain ⟨qs, name⟩ := p
  induction qs with
  | nil => exact chars_nil name
  | cons q qs ih =>
      rw [chars_cons, ih]
      cases qs <;> simp [text, joined]

theorem afterLast_chars (p : Path) : afterLast '.' p.chars = p.name.text.toList := by
  obtain ⟨qs, name⟩ := p
  induction qs with
  | nil =>
      rw [chars_nil]
      exact afterLast_of_not_mem name.dot_not_mem
  | cons q qs ih => rw [chars_cons, afterLast_append, ih]

/-- The tokens of a path begin with an identifier, and without blanks they are the path. -/
theorem tokens_of_reads {p : Path} {ts : Tokens} (h : Reads p.pieces ts) :
    ∃ (n : Identifier) (gaps : List Gap) (more : Tokens), ts = n.lexeme.token gaps :: more
      ∧ unblank (n.text.toList ++ more.flatMap Token.fullText) = p.chars := by
  obtain ⟨qs, name⟩ := p
  obtain ⟨n, ls, hls⟩ : ∃ (n : Identifier) (ls : List Lexeme), lexemesOf name qs = n.lexeme :: ls := by
    cases qs with
    | nil => exact ⟨name, [], rfl⟩
    | cons q qs => exact ⟨q, _, rfl⟩
  rw [pieces, piecesOf_eq, hls] at h
  obtain ⟨gaps, us, hus, rfl⟩ := reads_cons_iff.mp h
  refine ⟨n, gaps, us, rfl, ?_⟩
  rw [unblank_append, unblank_fullText hus, chars, hls]
  rfl

end Grammar.Path

theorem afterQualifiedName_of_not_dot {rest : Tokens}
    (h : ∀ t ∈ rest.head?, t.isMark '.' = false) : afterQualifiedName rest = rest := by
  match rest with
  | [] => rfl
  | [t] => rfl
  | dot :: part :: more =>
      have hdot := h dot rfl
      rw [afterQualifiedName]
      simp [hdot]

/-- The parts of a path are passed over. -/
theorem afterQualifiedName_reads {name : Identifier} {rest : Tokens}
    (hrest : ∀ t ∈ rest.head?, t.isMark '.' = false) (qs : List Identifier) :
    ∀ {t : Token} {more : Tokens}, Reads (Path.piecesOf name qs) (t :: more) →
      afterQualifiedName (more ++ rest) = rest := by
  induction qs with
  | nil =>
      intro t more h
      obtain ⟨gaps, us, ⟨⟩, heq⟩ := reads_word_iff.mp h
      obtain ⟨rfl, rfl⟩ := List.cons.inj heq
      exact afterQualifiedName_of_not_dot hrest
  | cons q qs ih =>
      intro t more h
      obtain ⟨gaps, us, hus, heq⟩ := reads_word_iff.mp h
      obtain ⟨rfl, rfl⟩ := List.cons.inj heq
      obtain ⟨gaps', vs, hvs, rfl⟩ := reads_mark_iff.mp hus.reads
      obtain ⟨n, gaps'', ws, rfl, -⟩ := Path.tokens_of_reads (p := ⟨qs, name⟩) hvs.reads
      rw [List.cons_append, List.cons_append, afterQualifiedName]
      simp only [isMark_mark, kind_word, decide_true, Bool.and_self, ↓reduceIte]
      exact ih hvs.reads

theorem textBetween_append (front rest : Tokens) :
    textBetween (front ++ rest) rest = sourceText front := by
  rw [textBetween, List.length_append, Nat.add_sub_cancel, List.take_left]

/-- The path that tokens are, as it is written. -/
theorem compactName_reads {p : Path} {ts : Tokens} (h : Reads p.pieces ts) :
    compactName (sourceText ts) = p.text.toList := by
  obtain ⟨n, gaps, more, rfl, hchars⟩ := Path.tokens_of_reads h
  rw [← Path.chars_eq, ← hchars]
  show (sourceText (n.lexeme.token gaps :: more)).toList.filter _ = _
  rw [sourceText, String.toList_ofList]
  rfl

theorem simpleName_reads {p : Path} {ts : Tokens} (h : Reads p.pieces ts) :
    simpleName (sourceText ts) = p.name.text := by
  rw [simpleName, compactName_reads h, ← Path.chars_eq, Path.afterLast_chars,
    String.ofList_toList]

/-! ### Values -/

namespace Written

theorem Atom.isInert_first (a : Atom) (gaps : List Gap) : isInert (a.first.token gaps) = true := by
  cases a with
  | text => exact isInert_of_kind (by rintro ⟨⟩)
  | integer => exact isInert_of_kind (by rintro ⟨⟩)
  | name => exact isInert_word gaps

theorem Atom.closed (a : Atom) (gaps : List Gap) : Closed (a.first.token gaps :: a.tail) := by
  refine .cons (a.isInert_first gaps) ?_
  cases a with
  | text => exact .nil
  | integer => exact .nil
  | name first others =>
      show Closed (others.flatMap furtherName)
      induction others with
      | nil => exact .nil
      | cons n others ih =>
          exact .cons (isInert_mark [] (by decide)) (.cons (isInert_word []) ih)

namespace Value

theorem listTokens_eq (qs : List Padded) :
    ∀ p, ∃ (inner : Tokens) (gaps : List Gap),
      listTokens p qs = inner ++ [Lexeme.closeBrace.token gaps] ∧ Balanced inner := by
  induction qs with
  | nil =>
      intro p
      exact ⟨_, p.behind.gaps, rfl, (p.atom.closed p.before.gaps).balanced⟩
  | cons q qs ih =>
      intro p
      obtain ⟨inner, gaps, heq, hinner⟩ := ih q
      refine ⟨paddedTokens p .comma ++ inner, gaps, ?_, ?_⟩
      · rw [listTokens, heq, List.append_assoc]
      · refine Balanced.append ?_ hinner
        rw [paddedTokens, ← List.cons_append]
        refine (p.atom.closed p.before.gaps).balanced.append (.cons ?_ ?_ .nil)
        · simp [isOpening]
        · simp [isClosing]

theorem closed (v : Value) (gaps : List Gap) : Closed (v.piece.run gaps) := by
  cases v with
  | atom a => exact a.closed gaps
  | empty inner =>
      show Closed (Lexeme.openBrace.token gaps
        :: ([] ++ [Lexeme.closeBrace.token inner.gaps]))
      exact .group (isOpening_mark gaps (by decide)) .nil (isClosing_mark _ (by decide)) .nil
  | list p ps =>
      obtain ⟨inner, gaps', heq, hinner⟩ := listTokens_eq ps p
      show Closed (Lexeme.openBrace.token gaps :: listTokens p ps)
      rw [heq]
      exact .group (isOpening_mark gaps (by decide)) hinner (isClosing_mark _ (by decide)) .nil

/-- A value shows no equals sign where an argument may have one. -/
theorem isMark_equals (v : Value) (gaps : List Gap) :
    (v.first.token gaps).isMark '=' = false ∧ ∀ t ∈ v.tail.head?, t.isMark '=' = false := by
  have hatom : ∀ (a : Atom) (gaps : List Gap), (a.first.token gaps).isMark '=' = false := by
    intro a gaps
    cases a <;> rfl
  cases v with
  | atom a =>
      refine ⟨hatom a gaps, fun t ht => ?_⟩
      cases a with
      | text => cases ht
      | integer => cases ht
      | name first others =>
          cases others with
          | nil => cases ht
          | cons n others =>
              cases ht
              rw [isMark_mark]
              rfl
  | empty inner =>
      refine ⟨by rw [first, isMark_mark]; rfl, fun t ht => ?_⟩
      cases ht
      rw [isMark_mark]
      rfl
  | list p ps =>
      refine ⟨by rw [first, isMark_mark]; rfl, fun t ht => ?_⟩
      cases ps with
      | nil =>
          cases ht
          exact hatom _ _
      | cons q qs =>
          cases ht
          exact hatom _ _

theorem sourceText_run (v : Value) (gaps : List Gap) : sourceText (v.piece.run gaps) = v.text := rfl

end Value

end Written

/-! ### Arguments -/

theorem argument?_value (v : Value) (gaps : List Gap) :
    argument? (v.piece.run gaps) = some (.value v.text) := by
  rw [← v.sourceText_run gaps]
  show argument? (v.first.token gaps :: v.tail) = some (.value (sourceText (v.first.token gaps :: v.tail)))
  cases htail : v.tail with
  | nil => rfl
  | cons t ts =>
      have hequals := (v.isMark_equals gaps).2 t (by rw [htail]; rfl)
      rw [argument?]
      simp [hequals]

theorem argument?_pair (n : Name) (v : Value) (g₁ g₂ g₃ : List Gap) :
    argument? (n.lexeme.token g₁ :: Lexeme.equals.token g₂ :: v.piece.run g₃)
      = some (.pair n.text v.text) := by
  have hequals : ((v.piece.first.token g₃).isMark '=') = false := (v.isMark_equals g₃).1
  rw [← v.sourceText_run g₃, argument?]
  simp [Piece.run, hequals]

/-- The comma between arguments, and the argument behind it. -/
theorem arguments_reads (entries : List (Name × Value)) :
    ∀ {ts : Tokens}, Reads (separated (.of .comma)
        (entries.map fun e => [e.1.piece, .of .equals, e.2.piece])) ts →
      (betweenCommas 0 0 ts).filterMap argument?
        = entries.map fun e => .pair e.1.text e.2.text := by
  -- One argument: the tokens of a name, an equals sign and a value.
  have entry : ∀ (n : Name) (v : Value) {ts : Tokens},
      Reads [n.piece, .of .equals, v.piece] ts →
        Closed ts ∧ argument? ts = some (.pair n.text v.text) := by
    intro n v ts h
    obtain ⟨g₁, us, hus, rfl⟩ := reads_name_iff.mp h
    obtain ⟨g₂, vs, hvs, rfl⟩ := reads_mark_iff.mp hus.reads
    obtain ⟨g₃, ws, ⟨⟩, rfl⟩ := reads_cons_iff.mp hvs.reads
    rw [List.append_nil]
    exact ⟨.cons (isInert_word g₁) (.cons (isInert_mark g₂ (by decide)) (v.closed g₃)),
      argument?_pair n v g₁ g₂ g₃⟩
  induction entries with
  | nil =>
      intro ts h
      cases h
      rfl
  | cons e entries ih =>
      intro ts h
      cases entries with
      | nil =>
          obtain ⟨hclosed, hargument⟩ := entry e.1 e.2 h
          have hruns := hclosed.betweenCommas []
          rw [List.append_nil] at hruns
          rw [hruns]
          simp [betweenCommas, ontoFirst, hargument]
      | cons f entries =>
          obtain ⟨us, vs, hus, hvs, rfl⟩ := Reads.append h
          obtain ⟨gaps, ws, hws, rfl⟩ := reads_mark_iff.mp hvs
          obtain ⟨hclosed, hargument⟩ := entry e.1 e.2 hus
          rw [hclosed.betweenCommas, betweenCommas_comma (by simp)]
          simp only [ontoFirst, List.append_nil, List.filterMap_cons, hargument]
          rw [ih hws.reads]
          rfl

/-! ### Annotations -/

/-- Nothing follows that would belong to an annotation in front. -/
def EndsMark (rest : Tokens) : Prop :=
  ∀ t ∈ rest.head?, t.isMark '.' = false ∧ t.isMark '(' = false

theorem toMark_eq (written : String) (p : Path) (h : simpleName written = p.name.text)
    (arguments : List ArgumentTree) :
    (MarkTree.mk written arguments).toMark = ⟨p.name.text, arguments.foldl addArgument ∅⟩ := by
  rw [MarkTree.toMark, h]

theorem foldl_pairs (entries : List (Name × Value)) :
    (entries.map fun e => ArgumentTree.pair e.1.text e.2.text).foldl addArgument ∅
      = .ofList (entries.map fun e => (e.1.text, e.2.text)) := by
  rw [OrderedMap.ofList, List.foldl_map, List.foldl_map]
  rfl

/-- The annotation with the given name, read on from behind the name. -/
def markBehind (written : String) : Tokens → MarkTree × Tokens
  | [] => (⟨written, []⟩, [])
  | paren :: inner =>
    if paren.isMark '(' then
      (⟨written, (betweenCommas 0 0 (insideBrackets 0 inner).1).filterMap argument?⟩,
        (insideBrackets 0 inner).2)
    else (⟨written, []⟩, paren :: inner)

theorem mark?_of_name (n : Identifier) (g g' : List Gap) (more : Tokens) :
    mark? (Lexeme.atSign.token g :: n.lexeme.token g' :: more)
      = some (markBehind (textBetween (n.lexeme.token g' :: more) (afterQualifiedName more))
        (afterQualifiedName more)) := by
  have hinterface : n.text ≠ "interface" := n.ne_of_mem (by decide)
  rw [mark?]
  simp only [isMark_mark, kind_word, text_word, decide_true, Bool.and_self, ne_eq, hinterface,
    not_false_eq_true, ↓reduceIte]
  cases afterQualifiedName more with
  | nil => rfl
  | cons paren inner =>
      rw [markBehind]
      by_cases hparen : paren.isMark '(' = true
      · simp only [hparen, ↓reduceIte]
      · simp only [hparen, Bool.false_eq_true, ↓reduceIte]

/-- The arguments of an annotation are read up to the closing parenthesis. -/
theorem parenthesized_reads {args rest : Tokens} (hbalanced : Balanced args) (g : List Gap) :
    insideBrackets 0 (args ++ Lexeme.closeParen.token g :: rest) = (args, rest) :=
  hbalanced.insideBrackets_closer (isClosing_mark g (by decide)) rest

theorem balanced_value (v : Value) : ∀ gaps, Balanced (v.piece.run gaps) :=
  fun gaps => (v.closed gaps).balanced

theorem balanced_mark {c : Char} (h : c ∈ separators) (hc : c ∉ ['(', '[', '\x7b', ')', ']', '\x7d'])
    (gaps : List Gap) : Balanced ((Piece.mark c h).run gaps) := by
  have hpiece : BalancedPieces [.mark c h] := .mark hc .nil
  exact hpiece.balanced (.cons .nil)

theorem balancedPieces_entries (entries : List (Name × Value)) :
    BalancedPieces (separated (.of .comma)
      (entries.map fun e => [e.1.piece, .of .equals, e.2.piece])) := by
  refine .separated (balanced_mark _ (by decide)) fun ps hps => ?_
  obtain ⟨e, -, rfl⟩ := List.mem_map.mp hps
  exact .name (.mark (by decide) (.cons (balanced_value e.2) .nil))

/-- The arguments of an annotation are read back, and do not look like a part of its name. -/
theorem markBehind_reads (arguments : Arguments) {args rest : Tokens}
    (h : Reads arguments.pieces args) (hrest : EndsMark rest) (written : String) :
    (∀ t ∈ (args ++ rest).head?, t.isMark '.' = false) ∧
      ∃ trees, markBehind written (args ++ rest) = (⟨written, trees⟩, rest)
        ∧ trees.foldl addArgument ∅ = arguments.attributes := by
  cases arguments with
  | absent =>
      cases h
      refine ⟨fun t ht => (hrest t ht).1, [], ?_, rfl⟩
      cases rest with
      | nil => rfl
      | cons t rest => simp [markBehind, (hrest t rfl).2]
  | sole v =>
      obtain ⟨g₁, vs, hvs, rfl⟩ := reads_mark_iff.mp h
      obtain ⟨g₂, ws, hws, rfl⟩ := reads_cons_iff.mp hvs.reads
      obtain ⟨g₃, xs, ⟨⟩, rfl⟩ := reads_mark_iff.mp hws.reads
      have hclosed := v.closed g₂
      have hruns := hclosed.betweenCommas []
      rw [List.append_nil] at hruns
      refine ⟨fun t ht => by cases ht; simp, [.value v.text], ?_, rfl⟩
      rw [List.cons_append, List.append_assoc, List.singleton_append, markBehind]
      simp [parenthesized_reads hclosed.balanced, hruns, betweenCommas, ontoFirst, argument?_value]
  | pairs entries =>
      obtain ⟨g₁, vs, hvs, rfl⟩ := reads_mark_iff.mp h
      obtain ⟨inner, ws, hinner, hws, rfl⟩ := spells_append_iff.mp hvs
      obtain ⟨g₃, xs, ⟨⟩, rfl⟩ := reads_mark_iff.mp hws.reads
      have hbalanced := (balancedPieces_entries entries).balanced hinner.reads
      refine ⟨fun t ht => by cases ht; simp, _, ?_, foldl_pairs entries⟩
      rw [List.cons_append, List.append_assoc, List.singleton_append, markBehind]
      simp [parenthesized_reads hbalanced, arguments_reads entries hinner.reads]

/-- An annotation is read back. -/
theorem mark?_reads (a : Annotation) {front rest : Tokens} (h : Reads a.pieces front)
    (hrest : EndsMark rest) :
    ∃ m, mark? (front ++ rest) = some (m, rest) ∧ m.toMark = a.mark := by
  obtain ⟨q, arguments⟩ := a
  obtain ⟨g, us, hus, rfl⟩ := reads_mark_iff.mp h
  rw [← Path.pieces_ofQualified] at hus
  obtain ⟨names, args, hnames, hargs, rfl⟩ := spells_append_iff.mp hus
  obtain ⟨n, g', more, rfl, -⟩ := Path.tokens_of_reads hnames.reads
  obtain ⟨hdot, trees, htrees, hattributes⟩ := markBehind_reads arguments hargs.reads hrest
    (sourceText (n.lexeme.token g' :: more))
  have hafter := afterQualifiedName_reads hdot (Path.ofQualified q).qualifier hnames.reads
  have hname := textBetween_append (n.lexeme.token g' :: more) (args ++ rest)
  rw [List.cons_append] at hname
  refine ⟨⟨sourceText (n.lexeme.token g' :: more), trees⟩, ?_, ?_⟩
  · have hassoc : Lexeme.atSign.token g :: (n.lexeme.token g' :: more ++ args) ++ rest
        = Lexeme.atSign.token g :: n.lexeme.token g' :: (more ++ (args ++ rest)) := by
      simp
    rw [hassoc, mark?_of_name, hafter, hname, htrees]
  · rw [toMark_eq _ (Path.ofQualified q) (simpleName_reads hnames.reads), hattributes]
    rfl

theorem mem_piecesOf {p : Piece} {name : Identifier} {qs : List Identifier}
    (h : p ∈ Path.piecesOf name qs) : (∃ n : Identifier, p = n.piece) ∨ p = .of .dot := by
  induction qs with
  | nil => exact .inl ⟨name, List.mem_singleton.mp h⟩
  | cons q qs ih =>
      rcases List.mem_cons.mp h with rfl | h
      · exact .inl ⟨q, rfl⟩
      · rcases List.mem_cons.mp h with rfl | h
        · exact .inr rfl
        · exact ih h

theorem balancedPieces_path (name : Identifier) (qs : List Identifier) :
    BalancedPieces (Path.piecesOf name qs) := by
  induction qs with
  | nil => exact .word .nil
  | cons q qs ih => exact .word (.mark (by decide) ih)

theorem balancedPieces_annotated (a : Annotation) : BalancedPieces a.pieces := by
  obtain ⟨q, arguments⟩ := a
  have hname := balancedPieces_path (Path.ofQualified q).name (Path.ofQualified q).qualifier
  rw [← Path.pieces, Path.pieces_ofQualified] at hname
  refine .mark (by decide) (hname.append ?_)
  cases arguments with
  | absent => exact .nil
  | sole v =>
      have hvalue : BalancedPieces [v.piece] := .cons (balanced_value v) .nil
      exact .group (by decide) hvalue (by decide) .nil
  | pairs entries => exact .group (by decide) (balancedPieces_entries entries) (by decide) .nil

/-! ### Modifiers -/

/-- A word follows that is no modifier where it stands, and something behind it. -/
def StartsPlain (rest : Tokens) : Prop :=
  ∃ t u more, rest = t :: u :: more ∧ t.kind = .word ∧ t.text ∉ modifierWords
    ∧ (t.text = "sealed" → u.kind ≠ .word ∧ u.isMark '@' = false)
    ∧ (t.text = "non" → u.isMark '-' = false)

/-- Two tokens follow, the first of which is a word or opens an annotation. -/
def GoesOn (ts : Tokens) : Prop :=
  ∃ t u more, ts = t :: u :: more ∧ (t.kind = .word ∨ t.isMark '@' = true)

theorem StartsPlain.goesOn {rest : Tokens} (h : StartsPlain rest) : GoesOn rest := by
  obtain ⟨t, u, more, rfl, hword, -⟩ := h
  exact ⟨t, u, more, rfl, .inl hword⟩

theorem isMark_of_kind {t : Token} (h : t.kind = .word) (c : Char) : t.isMark c = false := by
  simp [Token.isMark, h]

theorem kind_ne_word_of_isMark {t : Token} {c : Char} (h : t.isMark c = true) : t.kind ≠ .word := by
  intro hword
  rw [isMark_of_kind hword] at h
  cases h

theorem GoesOn.endsMark {ts : Tokens} (h : GoesOn ts) : EndsMark ts := by
  obtain ⟨t, u, more, rfl, hword | hat⟩ := h
  · intro v hv
    cases hv
    exact ⟨isMark_of_kind hword _, isMark_of_kind hword _⟩
  · intro v hv
    cases hv
    exact ⟨isMark_false_of_ne hat (by decide), isMark_false_of_ne hat (by decide)⟩

/-- Modifiers begin with a word or an annotation. -/
theorem first_of_modifiers {ms : List Modifier} {front : Tokens}
    (h : Reads (Modifier.allPieces ms) front) :
    front = [] ∨ ∃ t us, front = t :: us ∧ (t.kind = .word ∨ t.isMark '@' = true) := by
  cases ms with
  | nil =>
      cases h
      exact .inl rfl
  | cons m ms =>
      obtain ⟨us, vs, hus, -, rfl⟩ := Reads.append h
      cases m with
      | word w hw =>
          obtain ⟨g, xs, -, rfl⟩ := reads_word_iff.mp hus
          exact .inr ⟨_, xs ++ vs, rfl, .inl rfl⟩
      | sealed =>
          obtain ⟨g, xs, -, rfl⟩ := reads_word_iff.mp hus
          exact .inr ⟨_, xs ++ vs, rfl, .inl rfl⟩
      | unsealed =>
          obtain ⟨g, xs, -, rfl⟩ := reads_cons_iff.mp hus
          exact .inr ⟨_, _, rfl, .inl rfl⟩
      | annotated a =>
          obtain ⟨t, xs, ht, -, rfl⟩ := hus.mark
          exact .inr ⟨t, xs ++ vs, rfl, .inr ht⟩

/-- Modifiers and what follows them go on with a word or an annotation. -/
theorem goesOn_modifiers {ms : List Modifier} {front rest : Tokens}
    (h : Reads (Modifier.allPieces ms) front) (hrest : GoesOn rest) : GoesOn (front ++ rest) := by
  rcases first_of_modifiers h with rfl | ⟨t, us, rfl, ht⟩
  · exact hrest
  · obtain ⟨u, v, more, rfl, -⟩ := hrest
    cases us with
    | nil => exact ⟨t, u, v :: more, rfl, ht⟩
    | cons w us => exact ⟨t, w, us ++ u :: v :: more, rfl, ht⟩

/-- The marks that begin something behind modifiers: type parameters, or a block. -/
def beginningMarks : List Char :=
  ['<', '\x7b']

/-- Modifiers end here.  A mark may follow them only if none of them is about sealing. -/
inductive EndsModifiers (ms : List Modifier) : Tokens → Prop
  | word {rest : Tokens} (h : StartsPlain rest) : EndsModifiers ms rest
  | mark {t : Token} {ts : Tokens} {c : Char} (hc : c ∈ beginningMarks) (ht : t.isMark c = true)
      (hms : ∀ m ∈ ms, isSealing m = false) : EndsModifiers ms (t :: ts)
  | annotationType {t u : Token} {ts : Tokens} (ht : t.isMark '@' = true)
      (hu : u.isWord "interface" = true) : EndsModifiers ms (t :: u :: ts)

theorem EndsModifiers.of_cons {m : Modifier} {ms : List Modifier} {rest : Tokens}
    (h : EndsModifiers (m :: ms) rest) : EndsModifiers ms rest := by
  cases h with
  | word h => exact .word h
  | mark hc ht hms => exact .mark hc ht (List.forall_mem_cons.mp hms).2
  | annotationType ht hu => exact .annotationType ht hu

/-- Behind a word about sealing a word follows. -/
theorem EndsModifiers.goesOn {m : Modifier} {ms : List Modifier} {rest : Tokens}
    (h : EndsModifiers (m :: ms) rest) (hm : isSealing m = true) : GoesOn rest := by
  cases h with
  | word h => exact h.goesOn
  | mark hc ht hms =>
      rw [(List.forall_mem_cons.mp hms).1] at hm
      cases hm
  | @annotationType t u ts ht hu => exact ⟨t, u, ts, rfl, .inr ht⟩

/-- Nothing that ends modifiers belongs to an annotation in front. -/
theorem EndsModifiers.endsMark {ms : List Modifier} {front rest : Tokens}
    (h : Reads (Modifier.allPieces ms) front) (hrest : EndsModifiers ms rest) :
    EndsMark (front ++ rest) := by
  cases hrest with
  | word hrest => exact (goesOn_modifiers h hrest.goesOn).endsMark
  | @annotationType t u ts ht hu => exact (goesOn_modifiers h ⟨t, u, ts, rfl, .inr ht⟩).endsMark
  | @mark t ts c hc ht _ =>
      rcases first_of_modifiers h with rfl | ⟨u, us, rfl, hu⟩
      · intro v hv
        cases hv
        have hmarks : ∀ d ∈ beginningMarks, d ≠ '.' ∧ d ≠ '(' := forall_mem_of_all (by decide)
        exact ⟨isMark_false_of_ne ht (hmarks c hc).1, isMark_false_of_ne ht (hmarks c hc).2⟩
      · intro v hv
        cases hv
        rcases hu with hword | hat
        · exact ⟨isMark_of_kind hword _, isMark_of_kind hword _⟩
        · exact ⟨isMark_false_of_ne hat (by decide), isMark_false_of_ne hat (by decide)⟩

theorem modifierWord?_of_kind {t : Token} (h : t.kind ≠ .word) (ts : Tokens) :
    modifierWord? (t :: ts) = none := by
  rw [modifierWord?]
  simp only [h, decide_false, Bool.false_and, Bool.false_eq_true, ↓reduceIte, Token.isWord]
  split <;> rfl

theorem modifierWord?_plain {rest : Tokens} (h : StartsPlain rest) : modifierWord? rest = none := by
  obtain ⟨t, u, more, rfl, hword, hplain, hsealed, hnon⟩ := h
  have hcontains : modifierWords.contains t.text = false := by simpa using hplain
  have hunsealed : (t.isWord "non" && u.isMark '-') = false := by
    by_cases htext : t.text = "non"
    · rw [hnon htext, Bool.and_false]
    · simp [Token.isWord, htext]
  have hnotSealed : (t.isWord "sealed" && (decide (u.kind = .word) || u.isMark '@')) = false := by
    by_cases htext : t.text = "sealed"
    · simp [hsealed htext]
    · simp [Token.isWord, htext]
  rw [modifierWord?, hcontains, Bool.and_false]
  simp only [Bool.false_eq_true, ↓reduceIte]
  cases more with
  | nil => rfl
  | cons v more => simp only [hunsealed, hnotSealed, Bool.false_and, Bool.false_eq_true, ↓reduceIte]

theorem modifierWord?_word {w : String} (hw : w ∈ modifierWords) (h : isName w.toList = true)
    (g : List Gap) (ts : Tokens) :
    modifierWord? ((Lexeme.word w h).token g :: ts) = some (w, ts) := by
  rw [modifierWord?]
  simp [hw]

theorem goesOn_eq {t : Token} (h : t.kind = .word ∨ t.isMark '@' = true) :
    (t.kind = .word || t.isMark '@') = true := by
  simpa using h

theorem modifierWord?_sealed {ts : Tokens} (hts : GoesOn ts) (h : isName "sealed".toList = true)
    (g : List Gap) : modifierWord? ((Lexeme.word "sealed" h).token g :: ts) = some ("sealed", ts) := by
  obtain ⟨t, u, more, rfl, ht⟩ := hts
  have hcontains : modifierWords.contains "sealed" = false := by decide
  rw [modifierWord?, text_word, hcontains, Bool.and_false]
  simp [goesOn_eq ht]

theorem modifierWord?_unsealed {ts : Tokens} (hts : GoesOn ts) (g : List Gap) :
    modifierWord? (Modifier.unsealedPiece.run g ++ ts) = some ("non-sealed", ts) := by
  obtain ⟨t, u, more, rfl, ht⟩ := hts
  have hcontains : modifierWords.contains "non" = false := by decide
  show modifierWord? ((Lexeme.word "non" _).token g :: Lexeme.hyphen.token []
    :: (Lexeme.word "sealed" _).token [] :: t :: u :: more) = _
  rw [modifierWord?, text_word, hcontains, Bool.and_false]
  simp [goesOn_eq ht, Token.isAdjacent]

theorem mark?_of_not_at {ts : Tokens} (h : ∀ t ∈ ts.head?, t.isMark '@' = false) :
    mark? ts = none := by
  match ts with
  | [] => rfl
  | [t] => rfl
  | t :: u :: ts =>
      have ht := h t rfl
      rw [mark?]
      simp [ht]

theorem modifiers_end {ms : List Modifier} {rest : Tokens} (h : EndsModifiers ms rest)
    (budget : Nat) : modifiers budget rest = ([], rest) := by
  obtain ⟨hword, hmark⟩ : modifierWord? rest = none ∧ mark? rest = none := by
    cases h with
    | word h =>
        refine ⟨modifierWord?_plain h, mark?_of_not_at fun t ht => ?_⟩
        obtain ⟨u, v, more, rfl, hword, -⟩ := h
        cases ht
        exact isMark_of_kind hword '@'
    | @mark t ts c hc ht _ =>
        refine ⟨modifierWord?_of_kind (kind_ne_word_of_isMark ht) ts, mark?_of_not_at fun u hu => ?_⟩
        cases hu
        have hmarks : ∀ d ∈ beginningMarks, d ≠ '@' := forall_mem_of_all (by decide)
        exact isMark_false_of_ne ht (hmarks c hc)
    | @annotationType t u ts ht hu =>
        have htext : u.text = "interface" := by
          simp only [Token.isWord, Bool.and_eq_true, decide_eq_true_eq] at hu
          exact hu.2
        refine ⟨modifierWord?_of_kind (kind_ne_word_of_isMark ht) _, ?_⟩
        rw [mark?]
        simp [htext]
  cases budget with
  | zero => rfl
  | succ budget =>
      rw [modifiers, hword]
      simp only [hmark]

/-- Modifiers are read back. -/
theorem modifiers_reads {rest : Tokens} (ms : List Modifier) :
    ∀ {front : Tokens} {budget : Nat}, EndsModifiers ms rest →
      Reads (Modifier.allPieces ms) front → front.length ≤ budget →
      ∃ trees, modifiers budget (front ++ rest) = (trees, rest)
        ∧ marksOf trees = Modifier.marks ms ∧ wordsOf trees = Modifier.words ms := by
  induction ms with
  | nil =>
      intro front budget hrest h _
      cases h
      exact ⟨[], modifiers_end hrest budget, rfl, rfl⟩
  | cons m ms ih =>
      intro front budget hrest h hbudget
      obtain ⟨us, vs, hus, hvs, rfl⟩ := Reads.append h
      have hgoes : isSealing m = true → GoesOn (vs ++ rest) := fun hm =>
        goesOn_modifiers hvs (hrest.goesOn hm)
      have hpositive : 0 < us.length := by
        cases m <;> cases hus <;> simp [Piece.run]
      obtain ⟨budget, rfl⟩ : ∃ b, budget = b + 1 := by
        rw [List.length_append] at hbudget
        exact ⟨budget - 1, by omega⟩
      have hmore : vs.length ≤ budget := by
        rw [List.length_append] at hbudget
        omega
      obtain ⟨trees, htrees, hmarks, hwords⟩ := ih hrest.of_cons hvs hmore
      -- A word in front is read first, and the rest as before.
      have word : ∀ (w : String), m.word? = some w → m.mark? = none →
          modifierWord? (us ++ (vs ++ rest)) = some (w, vs ++ rest) →
          ∃ trees, modifiers (budget + 1) (us ++ vs ++ rest) = (trees, rest)
            ∧ marksOf trees = Modifier.marks (m :: ms) ∧ wordsOf trees = Modifier.words (m :: ms) := by
        intro w hw hm hread
        refine ⟨.word w :: trees, ?_, ?_, ?_⟩
        · rw [List.append_assoc, modifiers, hread]
          simp only [htrees]
        · rw [Modifier.marks, List.filterMap_cons, hm]
          exact hmarks
        · rw [Modifier.words, List.filterMap_cons, hw]
          exact congrArg (w :: ·) hwords
      cases m with
      | word w hw =>
          obtain ⟨g, xs, ⟨⟩, rfl⟩ := reads_word_iff.mp hus
          exact word w rfl rfl (modifierWord?_word hw _ g _)
      | sealed =>
          obtain ⟨g, xs, ⟨⟩, rfl⟩ := reads_word_iff.mp hus
          exact word "sealed" rfl rfl (modifierWord?_sealed (hgoes rfl) _ g)
      | unsealed =>
          obtain ⟨g, xs, ⟨⟩, rfl⟩ := reads_cons_iff.mp hus
          rw [List.append_nil] at word ⊢
          exact word "non-sealed" rfl rfl (modifierWord?_unsealed (hgoes rfl) g)
      | annotated a =>
          obtain ⟨m, hm, hmark⟩ := mark?_reads a hus (hrest.of_cons.endsMark hvs)
          have hnone : modifierWord? (us ++ (vs ++ rest)) = none := by
            obtain ⟨g, xs, -, rfl⟩ := reads_mark_iff.mp hus
            exact modifierWord?_of_kind (by rintro ⟨⟩) _
          refine ⟨.mark m :: trees, ?_, ?_, ?_⟩
          · rw [List.append_assoc, modifiers, hnone]
            simp only [hm, htrees]
          · rw [Modifier.marks, List.filterMap_cons]
            show m.toMark :: marksOf trees = a.mark :: Modifier.marks ms
            rw [hmark, hmarks]
          · exact hwords

theorem balancedPieces_modifiers (ms : List Modifier) : BalancedPieces (Modifier.allPieces ms) := by
  induction ms with
  | nil => exact .nil
  | cons m ms ih =>
      refine BalancedPieces.append ?_ ih
      cases m with
      | word w h => exact .word .nil
      | sealed => exact .word .nil
      | unsealed =>
          refine .cons (fun gaps => ?_) .nil
          exact .cons_inert (isInert_word gaps)
            (.cons_inert (isInert_mark [] (by decide)) (.cons_inert (isInert_word []) .nil))
      | annotated a => exact balancedPieces_annotated a

end ServiceAtlas.Java
