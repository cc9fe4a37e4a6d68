/-
What readers pass over unseen.

Readers find the end of parentheses, of the arguments of an annotation and of an initial value
by counting brackets.  Balanced tokens leave the count as it is.  Closed tokens have, besides,
no comma, semicolon or angle bracket outside brackets, and nothing ends or begins in them.
-/
import ServiceAtlas.Proofs.Java.Written

namespace ServiceAtlas.Java

open Reader Written

/-! ### Tokens of pieces -/

section Tokens

variable {c d : Char} {w v : String} (gaps : List Gap)

@[simp] theorem isMark_mark (h : c ∈ separators) :
    ((Lexeme.mark c h).token gaps).isMark d = decide (c = d) := by
  simp only [Token.isMark, Lexeme.token, Lexeme.mark, decide_true, Bool.true_and]
  refine decide_eq_decide.mpr ⟨fun heq => ?_, fun heq => heq ▸ rfl⟩
  simpa using congrArg String.toList heq

@[simp] theorem isWord_mark (h : c ∈ separators) :
    ((Lexeme.mark c h).token gaps).isWord w = false := rfl

@[simp] theorem kind_mark (h : c ∈ separators) :
    ((Lexeme.mark c h).token gaps).kind = .mark := rfl

@[simp] theorem isMark_word (h : isName w.toList = true) :
    ((Lexeme.word w h).token gaps).isMark d = false := rfl

@[simp] theorem isWord_word (h : isName w.toList = true) :
    ((Lexeme.word w h).token gaps).isWord v = decide (w = v) := rfl

@[simp] theorem kind_word (h : isName w.toList = true) :
    ((Lexeme.word w h).token gaps).kind = .word := rfl

@[simp] theorem text_word (h : isName w.toList = true) :
    ((Lexeme.word w h).token gaps).text = w := rfl

@[simp] theorem kind_name (n : Name) : (n.lexeme.token gaps).kind = .word := rfl

@[simp] theorem text_name (n : Name) : (n.lexeme.token gaps).text = n.text := rfl

@[simp] theorem gaps_token (l : Lexeme) : (l.token gaps).gaps = gaps := rfl

end Tokens

section Pieces

variable {ps : List Piece} {ts : List Token}

theorem reads_mark_iff {c : Char} {h : c ∈ separators} :
    Reads (.mark c h :: ps) ts ↔
      ∃ gaps us, Spells ps us ∧ ts = (Lexeme.mark c h).token gaps :: us :=
  reads_cons_iff

theorem Reads.mark {c : Char} {h : c ∈ separators} (hts : Reads (.mark c h :: ps) ts) :
    ∃ t us, t.isMark c = true ∧ Spells ps us ∧ ts = t :: us := by
  obtain ⟨gaps, us, hus, rfl⟩ := reads_mark_iff.mp hts
  exact ⟨_, us, by simp, hus, rfl⟩

theorem reads_word_iff {w : String} {h : isName w.toList = true} :
    Reads (.word w h :: ps) ts ↔
      ∃ gaps us, Spells ps us ∧ ts = (Lexeme.word w h).token gaps :: us :=
  reads_cons_iff

theorem reads_name_iff {n : Name} :
    Reads (n.piece :: ps) ts ↔ ∃ gaps us, Spells ps us ∧ ts = n.lexeme.token gaps :: us :=
  reads_cons_iff

/-- White space alone stands in front of a piece of one token. -/
theorem spells_of_iff {l : Lexeme} :
    Spells (.of l :: ps) ts ↔
      ∃ (s : Spaces) (us : List Token), Spells ps us ∧ ts = l.token s.gaps :: us := by
  rw [spells_cons_iff]
  constructor
  · rintro ⟨⟨before, comment⟩, us, hcomment, hps, rfl⟩
    cases comment with
    | none => exact ⟨before, us, hps, rfl⟩
    | some cb => cases hcomment
  · rintro ⟨s, us, hps, rfl⟩
    exact ⟨⟨s, none⟩, us, rfl, hps, rfl⟩

theorem fullText_spaces (l : Lexeme) (s : Spaces) :
    (l.token s.gaps).fullText = s.val ++ l.text.toList := by
  rw [Token.fullText, gaps_token, Spaces.text_gaps]
  rfl

end Pieces

/-- What holds of the tokens of each piece holds of all tokens. -/
theorem forall_mem_of_reads {P : Token → Prop} {ps : List Piece}
    (h : ∀ p ∈ ps, ∀ gaps, ∀ t ∈ p.run gaps, P t) :
    ∀ {ts : Tokens}, Reads ps ts → ∀ t ∈ ts, P t := by
  induction ps with
  | nil =>
      intro ts hts
      cases hts
      exact nofun
  | cons p ps ih =>
      intro ts hts t ht
      obtain ⟨gaps, us, hus, rfl⟩ := reads_cons_iff.mp hts
      obtain ⟨hp, hps⟩ := List.forall_mem_cons.mp h
      rcases List.mem_append.mp ht with ht | ht
      · exact hp gaps t ht
      · exact ih hps hus.reads t ht

theorem mem_separated {p sep : Piece} :
    ∀ {runs : List (List Piece)}, p ∈ separated sep runs → p = sep ∨ ∃ ps ∈ runs, p ∈ ps
  | [], h => nomatch h
  | [ps], h => .inr ⟨ps, List.mem_singleton_self ps, h⟩
  | ps :: qs :: runs, h => by
      rcases List.mem_append.mp h with h | h
      · exact .inr ⟨ps, List.mem_cons_self, h⟩
      · rcases List.mem_cons.mp h with rfl | h
        · exact .inl rfl
        · refine (mem_separated h).imp_right ?_
          rintro ⟨rs, hrs, hp⟩
          exact ⟨rs, List.mem_cons_of_mem _ hrs, hp⟩

/-! ### Balanced tokens -/

/-- Every bracket is closed by one behind it, of whatever kind. -/
inductive Balanced : Tokens → Prop
  | nil : Balanced []
  | cons {t : Token} {ts : Tokens} (hopens : isOpening t = false) (hcloses : isClosing t = false)
      (hts : Balanced ts) : Balanced (t :: ts)
  | group {opener closer : Token} {inner ts : Tokens} (hopens : isOpening opener = true)
      (hinner : Balanced inner) (hcloses : isClosing closer = true) (hts : Balanced ts) :
      Balanced (opener :: (inner ++ closer :: ts))

/-- The token is neither a bracket nor one of the marks at which scans stop or turn. -/
def isInert (t : Token) : Bool :=
  !isOpening t && !isClosing t && !t.isMark ',' && !t.isMark ';' && !t.isMark '<'

/-- The tokens are balanced and inert outside brackets. -/
inductive Closed : Tokens → Prop
  | nil : Closed []
  | cons {t : Token} {ts : Tokens} (ht : isInert t = true) (hts : Closed ts) : Closed (t :: ts)
  | group {opener closer : Token} {inner ts : Tokens} (hopens : isOpening opener = true)
      (hinner : Balanced inner) (hcloses : isClosing closer = true) (hts : Closed ts) :
      Closed (opener :: (inner ++ closer :: ts))

theorem isMark_unique {t : Token} {c d : Char} (hc : t.isMark c = true) (hd : t.isMark d = true) :
    c = d := by
  simp only [Token.isMark, Bool.and_eq_true, decide_eq_true_eq] at hc hd
  have heq : String.singleton c = String.singleton d := hc.2.symm.trans hd.2
  simpa using congrArg String.toList heq

theorem isMark_false_of_ne {t : Token} {c d : Char} (hc : t.isMark c = true) (h : c ≠ d) :
    t.isMark d = false := by
  by_contra hd
  exact h (isMark_unique hc (by simpa using hd))

theorem isWord_of_isMark {t : Token} {c : Char} (h : t.isMark c = true) (w : String) :
    t.isWord w = false := by
  simp only [Token.isMark, Bool.and_eq_true, decide_eq_true_eq] at h
  simp [Token.isWord, h.1]

theorem isOpening_cases {t : Token} (h : isOpening t = true) :
    ∃ c ∈ ['(', '[', '\x7b'], t.isMark c = true := by
  simp only [isOpening, Bool.or_eq_true] at h
  rcases h with (h | h) | h
  · exact ⟨_, by simp, h⟩
  · exact ⟨_, by simp, h⟩
  · exact ⟨_, by simp, h⟩

theorem isClosing_of_isOpening {t : Token} (h : isOpening t = true) : isClosing t = false := by
  obtain ⟨c, hc, hmark⟩ := isOpening_cases h
  have hne : ∀ c ∈ ['(', '[', '\x7b'], c ≠ ')' ∧ c ≠ ']' ∧ c ≠ '\x7d' :=
    forall_mem_of_all (by decide)
  obtain ⟨h₁, h₂, h₃⟩ := hne c hc
  simp [isClosing, isMark_false_of_ne hmark h₁, isMark_false_of_ne hmark h₂,
    isMark_false_of_ne hmark h₃]

theorem isOpening_of_isClosing {t : Token} (h : isClosing t = true) : isOpening t = false := by
  by_contra hopens
  rw [isClosing_of_isOpening (by simpa using hopens)] at h
  cases h

/-! ### Steps of scans -/

section Steps

variable {t : Token}

theorem insideBrackets_opening (h : isOpening t = true) (depth : Nat) (ts : Tokens) :
    insideBrackets depth (t :: ts)
      = (t :: (insideBrackets (depth + 1) ts).1, (insideBrackets (depth + 1) ts).2) := by
  rw [insideBrackets.eq_def]
  simp [h, isClosing_of_isOpening h]

theorem insideBrackets_closing (h : isClosing t = true) (depth : Nat) (ts : Tokens) :
    insideBrackets (depth + 1) (t :: ts)
      = (t :: (insideBrackets depth ts).1, (insideBrackets depth ts).2) := by
  rw [insideBrackets.eq_def]
  simp [h]

theorem insideBrackets_end (h : isClosing t = true) (ts : Tokens) :
    insideBrackets 0 (t :: ts) = ([], ts) := by
  rw [insideBrackets.eq_def]
  simp [h]

theorem insideBrackets_other (hopens : isOpening t = false) (hcloses : isClosing t = false)
    (depth : Nat) (ts : Tokens) :
    insideBrackets depth (t :: ts)
      = (t :: (insideBrackets depth ts).1, (insideBrackets depth ts).2) := by
  rw [insideBrackets.eq_def]
  simp [hopens, hcloses]

theorem afterExpression_opening (h : isOpening t = true) (depth : Nat) (ts : Tokens) :
    afterExpression depth 0 (t :: ts) = afterExpression (depth + 1) 0 ts := by
  rw [afterExpression.eq_def]
  simp [h]

theorem afterExpression_closing (h : isClosing t = true) (depth : Nat) (ts : Tokens) :
    afterExpression (depth + 1) 0 (t :: ts) = afterExpression depth 0 ts := by
  rw [afterExpression.eq_def]
  simp [h, isOpening_of_isClosing h]

theorem afterExpression_other (hopens : isOpening t = false) (hcloses : isClosing t = false)
    (depth : Nat) (ts : Tokens) :
    afterExpression (depth + 1) 0 (t :: ts) = afterExpression (depth + 1) 0 ts := by
  rw [afterExpression.eq_def]
  simp [hopens, hcloses]

theorem afterExpression_inert (h : isInert t = true) (ts : Tokens) :
    afterExpression 0 0 (t :: ts) = afterExpression 0 0 ts := by
  simp only [isInert, Bool.and_eq_true, Bool.not_eq_true'] at h
  rw [afterExpression.eq_def]
  simp [h]

/-- An expression ends at a comma or a semicolon. -/
theorem afterExpression_end (h : t.isMark ',' = true ∨ t.isMark ';' = true) (ts : Tokens) :
    afterExpression 0 0 (t :: ts) = t :: ts := by
  have hbrackets : isOpening t = false ∧ isClosing t = false := by
    rcases h with h | h
    all_goals
      simp [isOpening, isClosing, isMark_false_of_ne h]
  rw [afterExpression.eq_def]
  rcases h with h | h
  all_goals
    simp [hbrackets, h]

/-- Runs of tokens with tokens in front of the first one. -/
def ontoFirst (ts : Tokens) : List Tokens → List Tokens
  | [] => [ts]
  | p :: ps => (ts ++ p) :: ps

theorem ontoFirst_append (ts us : Tokens) (runs : List Tokens) :
    ontoFirst (ts ++ us) runs = ontoFirst ts (ontoFirst us runs) := by
  cases runs <;> simp [ontoFirst]

theorem betweenCommas_ne_nil (depth skip : Nat) : ∀ ts, betweenCommas depth skip ts ≠ []
  | [] => by simp [betweenCommas]
  | t :: ts => by
      have honto : ∀ runs : List Tokens, (match runs with
          | [] => [[t]]
          | p :: ps => (t :: p) :: ps) ≠ [] := fun runs => by cases runs <;> simp
      rw [betweenCommas.eq_def]
      cases skip with
      | succ k => exact honto _
      | zero =>
          simp only
          repeat' split
          all_goals first | exact honto _ | simp

theorem ontoFirst_nil {runs : List Tokens} (h : runs ≠ []) : ontoFirst [] runs = runs := by
  cases runs with
  | nil => exact absurd rfl h
  | cons p ps => rfl

theorem betweenCommas_opening (h : isOpening t = true) (depth : Nat) (ts : Tokens) :
    betweenCommas depth 0 (t :: ts) = ontoFirst [t] (betweenCommas (depth + 1) 0 ts) := by
  rw [betweenCommas.eq_def]
  simp only [h, ↓reduceIte]
  rfl

theorem betweenCommas_closing (h : isClosing t = true) (depth : Nat) (ts : Tokens) :
    betweenCommas (depth + 1) 0 (t :: ts) = ontoFirst [t] (betweenCommas depth 0 ts) := by
  rw [betweenCommas.eq_def]
  simp only [h, isOpening_of_isClosing h, Bool.false_eq_true, ↓reduceIte, Nat.add_sub_cancel]
  rfl

theorem betweenCommas_other (hopens : isOpening t = false) (hcloses : isClosing t = false)
    (depth : Nat) (ts : Tokens) :
    betweenCommas (depth + 1) 0 (t :: ts) = ontoFirst [t] (betweenCommas (depth + 1) 0 ts) := by
  rw [betweenCommas.eq_def]
  simp only [hopens, hcloses, Bool.false_eq_true, ↓reduceIte, Nat.add_eq_zero_iff, Nat.one_ne_zero,
    and_false, decide_false, Bool.false_and]
  rfl

theorem betweenCommas_inert (h : isInert t = true) (ts : Tokens) :
    betweenCommas 0 0 (t :: ts) = ontoFirst [t] (betweenCommas 0 0 ts) := by
  simp only [isInert, Bool.and_eq_true, Bool.not_eq_true'] at h
  rw [betweenCommas.eq_def]
  simp only [h, Bool.false_eq_true, ↓reduceIte, Bool.and_false]
  rfl

theorem betweenCommas_comma (h : t.isMark ',' = true) (ts : Tokens) :
    betweenCommas 0 0 (t :: ts) = [] :: betweenCommas 0 0 ts := by
  have hopens : isOpening t = false := by simp [isOpening, isMark_false_of_ne h]
  have hcloses : isClosing t = false := by simp [isClosing, isMark_false_of_ne h]
  rw [betweenCommas.eq_def]
  simp [hopens, hcloses, h]

end Steps

/-! ### Whole runs -/

namespace Balanced

theorem append {ts us : Tokens} (hts : Balanced ts) (hus : Balanced us) : Balanced (ts ++ us) := by
  induction hts with
  | nil => exact hus
  | cons hopens hcloses _ ih => exact .cons hopens hcloses ih
  | group hopens hinner hcloses _ _ ih =>
      rw [List.cons_append, List.append_assoc, List.cons_append]
      exact .group hopens hinner hcloses ih

theorem insideBrackets {ts : Tokens} (h : Balanced ts) :
    ∀ depth rest, Reader.insideBrackets depth (ts ++ rest)
      = (ts ++ (Reader.insideBrackets depth rest).1, (Reader.insideBrackets depth rest).2) := by
  induction h with
  | nil => exact fun _ _ => rfl
  | cons hopens hcloses _ ih =>
      intro depth rest
      rw [List.cons_append, insideBrackets_other hopens hcloses, ih]
      rfl
  | group hopens _ hcloses _ ihinner ih =>
      intro depth rest
      rw [List.cons_append, List.append_assoc, List.cons_append, insideBrackets_opening hopens,
        ihinner, insideBrackets_closing hcloses, ih]
      simp

/-- The tokens inside a pair of brackets and those behind it. -/
theorem insideBrackets_closer {ts : Tokens} (h : Balanced ts) {closer : Token}
    (hcloses : isClosing closer = true) (rest : Tokens) :
    Reader.insideBrackets 0 (ts ++ closer :: rest) = (ts, rest) := by
  rw [h.insideBrackets, insideBrackets_end hcloses, List.append_nil]

theorem afterExpression {ts : Tokens} (h : Balanced ts) :
    ∀ depth rest, Reader.afterExpression (depth + 1) 0 (ts ++ rest)
      = Reader.afterExpression (depth + 1) 0 rest := by
  induction h with
  | nil => exact fun _ _ => rfl
  | cons hopens hcloses _ ih =>
      intro depth rest
      rw [List.cons_append, afterExpression_other hopens hcloses, ih]
  | group hopens _ hcloses _ ihinner ih =>
      intro depth rest
      rw [List.cons_append, List.append_assoc, List.cons_append, afterExpression_opening hopens,
        ihinner, afterExpression_closing hcloses, ih]

theorem betweenCommas {ts : Tokens} (h : Balanced ts) {rest : Tokens} :
    ∀ depth, Reader.betweenCommas (depth + 1) 0 (ts ++ rest)
      = ontoFirst ts (Reader.betweenCommas (depth + 1) 0 rest) := by
  induction h generalizing rest with
  | nil => exact fun depth => (ontoFirst_nil (betweenCommas_ne_nil (depth + 1) 0 rest)).symm
  | cons hopens hcloses _ ih =>
      intro depth
      rw [List.cons_append, betweenCommas_other hopens hcloses, ih, ← ontoFirst_append]
      rfl
  | @group opener closer inner ts hopens _ hcloses _ ihinner ih =>
      intro depth
      rw [List.cons_append, List.append_assoc, List.cons_append, betweenCommas_opening hopens,
        ihinner, betweenCommas_closing hcloses, ih, ← ontoFirst_append, ← ontoFirst_append,
        ← ontoFirst_append]
      simp

end Balanced

namespace Closed

theorem balanced {ts : Tokens} (h : Closed ts) : Balanced ts := by
  induction h with
  | nil => exact .nil
  | cons ht _ ih =>
      simp only [isInert, Bool.and_eq_true, Bool.not_eq_true'] at ht
      exact .cons ht.1.1.1.1 ht.1.1.1.2 ih
  | group hopens hinner hcloses _ ih => exact .group hopens hinner hcloses ih

theorem afterExpression {ts : Tokens} (h : Closed ts) (rest : Tokens) :
    Reader.afterExpression 0 0 (ts ++ rest) = Reader.afterExpression 0 0 rest := by
  induction h with
  | nil => rfl
  | cons ht _ ih => rw [List.cons_append, afterExpression_inert ht, ih]
  | group hopens hinner hcloses _ ih =>
      rw [List.cons_append, List.append_assoc, List.cons_append, afterExpression_opening hopens,
        hinner.afterExpression, afterExpression_closing hcloses, ih]

theorem betweenCommas {ts : Tokens} (h : Closed ts) (rest : Tokens) :
    Reader.betweenCommas 0 0 (ts ++ rest) = ontoFirst ts (Reader.betweenCommas 0 0 rest) := by
  induction h with
  | nil => exact (ontoFirst_nil (betweenCommas_ne_nil 0 0 rest)).symm
  | cons ht _ ih =>
      rw [List.cons_append, betweenCommas_inert ht, ih, ← ontoFirst_append]
      rfl
  | group hopens hinner hcloses _ ih =>
      rw [List.cons_append, List.append_assoc, List.cons_append, betweenCommas_opening hopens,
        hinner.betweenCommas, betweenCommas_closing hcloses, ih, ← ontoFirst_append,
        ← ontoFirst_append, ← ontoFirst_append]
      simp

end Closed

/-! ### Balanced pieces -/

theorem isOpening_mark {c : Char} {h : c ∈ separators} (gaps : List Gap)
    (hc : c ∈ ['(', '[', '\x7b']) : isOpening ((Lexeme.mark c h).token gaps) = true := by
  simp only [isOpening, isMark_mark, Bool.or_eq_true, decide_eq_true_eq]
  simpa [or_assoc] using hc

theorem isClosing_mark {c : Char} {h : c ∈ separators} (gaps : List Gap)
    (hc : c ∈ [')', ']', '\x7d']) : isClosing ((Lexeme.mark c h).token gaps) = true := by
  simp only [isClosing, isMark_mark, Bool.or_eq_true, decide_eq_true_eq]
  simpa [or_assoc] using hc

theorem isInert_of_kind {t : Token} (h : t.kind ≠ .mark) : isInert t = true := by
  simp [isInert, isOpening, isClosing, Token.isMark, h]

theorem isInert_word {w : String} {h : isName w.toList = true} (gaps : List Gap) :
    isInert ((Lexeme.word w h).token gaps) = true :=
  isInert_of_kind (by rintro ⟨⟩)

theorem isInert_mark {c : Char} {h : c ∈ separators} (gaps : List Gap)
    (hc : c ∈ ['.', '=', '@', '?', '-', '>', '&', '*']) :
    isInert ((Lexeme.mark c h).token gaps) = true := by
  have hinert : ∀ d ∈ ['.', '=', '@', '?', '-', '>', '&', '*'],
      d ∉ ['(', '[', '\x7b', ')', ']', '\x7d', ',', ';', '<'] := forall_mem_of_all (by decide)
  have hne := hinert c hc
  simp only [List.mem_cons, not_or] at hne
  simp [isInert, isOpening, isClosing, hne]

theorem Balanced.cons_inert {t : Token} (h : isInert t = true) {ts : Tokens} (hts : Balanced ts) :
    Balanced (t :: ts) := by
  simp only [isInert, Bool.and_eq_true, Bool.not_eq_true'] at h
  exact .cons h.1.1.1.1 h.1.1.1.2 hts

/-- The tokens of the pieces are balanced, however they are laid out. -/
inductive BalancedPieces : List Piece → Prop
  | nil : BalancedPieces []
  | cons {p : Piece} {ps : List Piece} (hp : ∀ gaps, Balanced (p.run gaps))
      (hps : BalancedPieces ps) : BalancedPieces (p :: ps)
  | group {o c : Char} {ho : o ∈ separators} {hc : c ∈ separators} {inner ps : List Piece}
      (hopens : o ∈ ['(', '[', '\x7b']) (hinner : BalancedPieces inner)
      (hcloses : c ∈ [')', ']', '\x7d']) (hps : BalancedPieces ps) :
      BalancedPieces (.mark o ho :: (inner ++ .mark c hc :: ps))

namespace BalancedPieces

theorem append {ps qs : List Piece} (hps : BalancedPieces ps) (hqs : BalancedPieces qs) :
    BalancedPieces (ps ++ qs) := by
  induction hps with
  | nil => exact hqs
  | cons hp _ ih => exact .cons hp ih
  | group hopens hinner hcloses _ _ ih =>
      rw [List.cons_append, List.append_assoc, List.cons_append]
      exact .group hopens hinner hcloses ih

theorem balanced {ps : List Piece} (h : BalancedPieces ps) :
    ∀ {ts : Tokens}, Reads ps ts → Balanced ts := by
  induction h with
  | nil =>
      intro ts hts
      cases hts
      exact .nil
  | cons hp _ ih =>
      intro ts hts
      obtain ⟨gaps, us, hus, rfl⟩ := reads_cons_iff.mp hts
      exact (hp gaps).append (ih hus.reads)
  | group hopens _ hcloses _ ihinner ih =>
      intro ts hts
      obtain ⟨gaps, us, hus, rfl⟩ := reads_mark_iff.mp hts
      obtain ⟨vs, ws, hvs, hws, rfl⟩ := spells_append_iff.mp hus
      obtain ⟨gaps', xs, hxs, rfl⟩ := reads_mark_iff.mp hws.reads
      exact .group (isOpening_mark gaps hopens) (ihinner hvs.reads)
        (isClosing_mark gaps' hcloses) (ih hxs.reads)

theorem word {w : String} {h : isName w.toList = true} {ps : List Piece}
    (hps : BalancedPieces ps) : BalancedPieces (.word w h :: ps) :=
  .cons (fun gaps => .cons_inert (isInert_word gaps) .nil) hps

theorem name {n : Name} {ps : List Piece} (hps : BalancedPieces ps) :
    BalancedPieces (n.piece :: ps) :=
  .cons (fun gaps => .cons_inert (isInert_word gaps) .nil) hps

/-- Marks other than brackets do not matter. -/
theorem mark {c : Char} {h : c ∈ separators} (hc : c ∉ ['(', '[', '\x7b', ')', ']', '\x7d'])
    {ps : List Piece} (hps : BalancedPieces ps) : BalancedPieces (.mark c h :: ps) := by
  refine .cons (fun gaps => .cons ?_ ?_ .nil) hps
  · have hne : c ≠ '(' ∧ c ≠ '[' ∧ c ≠ '\x7b' := by simp at hc; tauto
    show isOpening ((Lexeme.mark c h).token gaps) = false
    simp [isOpening, hne]
  · have hne : c ≠ ')' ∧ c ≠ ']' ∧ c ≠ '\x7d' := by simp at hc; tauto
    show isClosing ((Lexeme.mark c h).token gaps) = false
    simp [isClosing, hne]

/-- Lists of balanced pieces with balanced pieces between them. -/
theorem separated {sep : Piece} (hsep : ∀ gaps, Balanced (sep.run gaps)) :
    ∀ {runs : List (List Piece)}, (∀ ps ∈ runs, BalancedPieces ps) →
      BalancedPieces (Java.separated sep runs)
  | [], _ => .nil
  | [ps], h => h ps List.mem_cons_self
  | ps :: _ :: _, h =>
      (h ps List.mem_cons_self).append
        (.cons hsep (separated hsep fun rs hrs => h rs (List.mem_cons_of_mem _ hrs)))

end BalancedPieces

end ServiceAtlas.Java
