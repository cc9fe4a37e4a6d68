/-
Brackets of one kind.

Some readers count one kind of bracket and see no other: braces around bodies, and angle
brackets around type parameters.  An expression is passed over by counting all brackets, and in
it an angle bracket opens type arguments if what follows looks like them.
-/
import ServiceAtlas.Proofs.Java.Scanning

namespace ServiceAtlas.Java

open Reader

/-- Neither bracket belongs to the piece. -/
def isOutside (o c : Char) (p : Piece) : Bool :=
  (p.run []).all fun t => !t.isMark o && !t.isMark c

/-- The brackets of one kind match, whatever becomes of others. -/
inductive Matching (o c : Char) : List Piece → Prop
  | nil : Matching o c []
  | cons {p : Piece} {ps : List Piece} (hp : isOutside o c p = true) (hps : Matching o c ps) :
      Matching o c (p :: ps)
  | pair {ho : o ∈ separators} {hc : c ∈ separators} {inner ps : List Piece}
      (hinner : Matching o c inner) (hps : Matching o c ps) :
      Matching o c (.mark o ho :: (inner ++ .mark c hc :: ps))

theorem isOutside_run {o c : Char} {p : Piece} (hp : isOutside o c p = true) (gaps : List Gap) :
    ∀ t ∈ p.run gaps, t.isMark o = false ∧ t.isMark c = false := by
  simp only [isOutside, Piece.run, List.all_cons, Bool.and_eq_true, Bool.not_eq_true',
    List.all_eq_true] at hp
  exact List.forall_mem_cons.mpr hp

namespace Matching

variable {o c : Char}

theorem append {ps qs : List Piece} (hps : Matching o c ps) (hqs : Matching o c qs) :
    Matching o c (ps ++ qs) := by
  induction hps with
  | nil => exact hqs
  | cons hp _ ih => exact .cons hp ih
  | pair hinner _ _ ih =>
      rw [List.cons_append, List.append_assoc, List.cons_append]
      exact .pair hinner ih

theorem separated {sep : Piece} (hsep : isOutside o c sep = true) :
    ∀ {runs : List (List Piece)}, (∀ ps ∈ runs, Matching o c ps) →
      Matching o c (Java.separated sep runs)
  | [], _ => .nil
  | [ps], h => h ps List.mem_cons_self
  | ps :: _ :: _, h =>
      (h ps List.mem_cons_self).append
        (.cons hsep (separated hsep fun rs hrs => h rs (List.mem_cons_of_mem _ hrs)))

end Matching

/-! ### Scans for one kind -/

/-- The scan looks for the bracket that closes one in front of it, and sees no others. -/
structure IsScan (o c : Char) (scan : Nat → Tokens → Tokens) : Prop where
  opening : ∀ {t}, t.isMark o = true → ∀ depth ts, scan depth (t :: ts) = scan (depth + 1) ts
  closing : ∀ {t}, t.isMark c = true → ∀ depth ts, scan (depth + 1) (t :: ts) = scan depth ts
  last : ∀ {t}, t.isMark c = true → ∀ ts, scan 0 (t :: ts) = ts
  other : ∀ {t}, t.isMark o = false → t.isMark c = false →
    ∀ depth ts, scan depth (t :: ts) = scan depth ts

theorem isScan_afterBraces : IsScan '\x7b' '\x7d' afterBraces where
  opening h _ _ := by simp [afterBraces, h]
  closing h _ _ := by simp [afterBraces, h, isMark_false_of_ne h]
  last h _ := by simp [afterBraces, h, isMark_false_of_ne h]
  other hopens hcloses _ _ := by simp [afterBraces, hopens, hcloses]

theorem isScan_afterAngles : IsScan '<' '>' afterAngles where
  opening h _ _ := by simp [afterAngles, h]
  closing h _ _ := by simp [afterAngles, h, isMark_false_of_ne h]
  last h _ := by simp [afterAngles, h, isMark_false_of_ne h]
  other hopens hcloses _ _ := by simp [afterAngles, hopens, hcloses]

namespace IsScan

variable {o c : Char} {scan : Nat → Tokens → Tokens} (h : IsScan o c scan)
include h

theorem outside {ts : Tokens} (hts : ∀ t ∈ ts, t.isMark o = false ∧ t.isMark c = false)
    (depth : Nat) (rest : Tokens) : scan depth (ts ++ rest) = scan depth rest := by
  induction ts with
  | nil => rfl
  | cons t ts ih =>
      obtain ⟨ht, hts⟩ := List.forall_mem_cons.mp hts
      rw [List.cons_append, h.other ht.1 ht.2, ih hts]

/-- Matching brackets are passed over. -/
theorem matching {ps : List Piece} (hps : Matching o c ps) :
    ∀ {ts : Tokens}, Reads ps ts → ∀ depth rest, scan depth (ts ++ rest) = scan depth rest := by
  induction hps with
  | nil =>
      intro ts hts depth rest
      cases hts
      rfl
  | cons hp _ ih =>
      intro ts hts depth rest
      obtain ⟨gaps, us, hus, rfl⟩ := reads_cons_iff.mp hts
      rw [List.append_assoc, h.outside (isOutside_run hp gaps), ih hus.reads]
  | pair _ _ ihinner ih =>
      intro ts hts depth rest
      obtain ⟨gaps, us, hus, rfl⟩ := reads_mark_iff.mp hts
      obtain ⟨vs, ws, hvs, hws, rfl⟩ := spells_append_iff.mp hus
      obtain ⟨gaps', xs, hxs, rfl⟩ := reads_mark_iff.mp hws.reads
      rw [List.cons_append, h.opening (by simp), List.append_assoc, ihinner hvs.reads,
        List.cons_append, h.closing (by simp), ih hxs.reads]

/-- The scan ends behind the bracket that closes what it began with. -/
theorem closer {ps : List Piece} (hps : Matching o c ps) {ts : Tokens} (hts : Reads ps ts)
    {t : Token} (ht : t.isMark c = true) (rest : Tokens) : scan 0 (ts ++ t :: rest) = rest := by
  rw [h.matching hps hts, h.last ht]

end IsScan

/-! ### Type arguments in an expression -/

/-- Nothing but words and the marks of types belongs to the piece. -/
def isTyping (p : Piece) : Bool :=
  (p.run []).all fun t => t.kind = .word || isTypeMark t || t.isMark '<' || t.isMark '>'

theorem isTyping_run {p : Piece} (hp : isTyping p = true) (gaps : List Gap) :
    ∀ t ∈ p.run gaps, t.kind = .word ∨ isTypeMark t = true ∨ t.isMark '<' = true
      ∨ t.isMark '>' = true := by
  simp only [isTyping, Piece.run, List.all_cons, Bool.and_eq_true, Bool.or_eq_true, or_assoc,
    List.all_eq_true, decide_eq_true_eq] at hp
  exact List.forall_mem_cons.mpr hp

section Angles

variable {t : Token} {ts : Tokens} {depth : Nat}

theorem anglesLength_opening (ht : t.isMark '<' = true) (h : 0 < anglesLength (depth + 1) ts) :
    anglesLength depth (t :: ts) = anglesLength (depth + 1) ts + 1 := by
  rw [anglesLength.eq_def]
  simp [ht, Nat.ne_of_gt h]

theorem anglesLength_closing (ht : t.isMark '>' = true) (h : 0 < anglesLength depth ts) :
    anglesLength (depth + 1) (t :: ts) = anglesLength depth ts + 1 := by
  rw [anglesLength.eq_def]
  simp [ht, isMark_false_of_ne ht, Nat.ne_of_gt h]

theorem anglesLength_last (ht : t.isMark '>' = true) (ts : Tokens) :
    anglesLength 0 (t :: ts) = 1 := by
  rw [anglesLength.eq_def]
  simp [ht, isMark_false_of_ne ht]

theorem anglesLength_other (hopens : t.isMark '<' = false) (hcloses : t.isMark '>' = false)
    (ht : t.kind = .word ∨ isTypeMark t = true) (h : 0 < anglesLength depth ts) :
    anglesLength depth (t :: ts) = anglesLength depth ts + 1 := by
  have htyping : (decide (t.kind = .word) || isTypeMark t) = true := by simpa using ht
  rw [anglesLength.eq_def]
  simp [hopens, hcloses, htyping, Nat.ne_of_gt h]

end Angles

/-- Tokens that look like types are counted, if what follows looks like them, too. -/
theorem anglesLength_outside {ts : Tokens}
    (houtside : ∀ t ∈ ts, t.isMark '<' = false ∧ t.isMark '>' = false)
    (htyping : ∀ t ∈ ts, t.kind = .word ∨ isTypeMark t = true ∨ t.isMark '<' = true
      ∨ t.isMark '>' = true) {depth : Nat} {rest : Tokens} (h : 0 < anglesLength depth rest) :
    anglesLength depth (ts ++ rest) = ts.length + anglesLength depth rest := by
  induction ts with
  | nil => exact (Nat.zero_add _).symm
  | cons t ts ih =>
      obtain ⟨⟨hopens, hcloses⟩, houtside⟩ := List.forall_mem_cons.mp houtside
      obtain ⟨ht, htyping⟩ := List.forall_mem_cons.mp htyping
      simp only [hopens, hcloses, Bool.false_eq_true, or_false] at ht
      have hmore := ih houtside htyping
      have hpositive : 0 < anglesLength depth (ts ++ rest) := by omega
      rw [List.cons_append, anglesLength_other hopens hcloses ht hpositive, hmore, List.length_cons]
      omega

theorem anglesLength_matching {ps : List Piece} (hps : Matching '<' '>' ps) :
    (∀ p ∈ ps, isTyping p = true) → ∀ {ts : Tokens}, Reads ps ts → ∀ {depth rest},
      0 < anglesLength depth rest →
      anglesLength depth (ts ++ rest) = ts.length + anglesLength depth rest := by
  induction hps with
  | nil =>
      intro _ ts hts depth rest _
      cases hts
      exact (Nat.zero_add _).symm
  | @cons p ps hp _ ih =>
      intro htyping ts hts depth rest h
      obtain ⟨gaps, us, hus, rfl⟩ := reads_cons_iff.mp hts
      obtain ⟨hpTyping, htyping⟩ := List.forall_mem_cons.mp htyping
      have hmore := ih htyping hus.reads h
      have hpositive : 0 < anglesLength depth (us ++ rest) := by omega
      rw [List.append_assoc, anglesLength_outside (isOutside_run hp gaps) (isTyping_run hpTyping gaps)
        hpositive, hmore, List.length_append, Nat.add_assoc]
  | pair _ _ ihinner ih =>
      intro htyping ts hts depth rest h
      obtain ⟨-, htyping⟩ := List.forall_mem_cons.mp htyping
      obtain ⟨hinner, hbehind⟩ := List.forall_mem_append.mp htyping
      obtain ⟨-, hbehind⟩ := List.forall_mem_cons.mp hbehind
      obtain ⟨opener, us, hopens, hus, rfl⟩ := hts.mark
      obtain ⟨vs, ws, hvs, hws, rfl⟩ := spells_append_iff.mp hus
      obtain ⟨closer, xs, hcloses, hxs, rfl⟩ := hws.reads.mark
      have hmore := ih hbehind hxs.reads h
      have hpositive : 0 < anglesLength depth (xs ++ rest) := by omega
      have hcloser := anglesLength_closing hcloses hpositive
      have hbehindInner : 0 < anglesLength (depth + 1) (closer :: (xs ++ rest)) := by omega
      have hinside := ihinner hinner hvs.reads hbehindInner
      rw [List.cons_append, List.append_assoc, List.cons_append, anglesLength_opening hopens
        (by omega), hinside, hcloser, hmore]
      simp only [List.length_cons, List.length_append]
      omega

/-- The number of tokens up to the bracket that closes type arguments. -/
theorem anglesLength_arguments {ps : List Piece} (hps : Matching '<' '>' ps)
    (htyping : ∀ p ∈ ps, isTyping p = true) {ts : Tokens} (hts : Reads ps ts) {t : Token}
    (ht : t.isMark '>' = true) (rest : Tokens) :
    anglesLength 0 (ts ++ t :: rest) = ts.length + 1 := by
  have hlast := anglesLength_last ht rest
  rw [anglesLength_matching hps htyping hts (by omega), hlast]

theorem afterExpression_skip (ts : Tokens) (depth : Nat) (rest : Tokens) :
    afterExpression depth ts.length (ts ++ rest) = afterExpression depth 0 rest := by
  induction ts with
  | nil => rfl
  | cons t ts ih => rw [List.length_cons, List.cons_append, afterExpression, ih]

theorem afterExpression_less {t : Token} (ht : t.isMark '<' = true) (ts : Tokens) :
    afterExpression 0 0 (t :: ts) = afterExpression 0 (anglesLength 0 ts) ts := by
  have hother : ∀ c, '<' ≠ c → t.isMark c = false := fun c hc => isMark_false_of_ne ht hc
  rw [afterExpression.eq_def]
  simp [isOpening, isClosing, ht, hother]

/-! ### Expressions -/

/-- Outside brackets there is no comma, no semicolon, and no angle bracket but those of type
arguments. -/
inductive ClosedPieces : List Piece → Prop
  | nil : ClosedPieces []
  | cons {p : Piece} {ps : List Piece} (hp : ∀ gaps, Closed (p.run gaps))
      (hps : ClosedPieces ps) : ClosedPieces (p :: ps)
  | group {o c : Char} {ho : o ∈ separators} {hc : c ∈ separators} {inner ps : List Piece}
      (hopens : o ∈ ['(', '[', '\x7b']) (hinner : BalancedPieces inner)
      (hcloses : c ∈ [')', ']', '\x7d']) (hps : ClosedPieces ps) :
      ClosedPieces (.mark o ho :: (inner ++ .mark c hc :: ps))
  | arguments {inner ps : List Piece} (hinner : Matching '<' '>' inner)
      (hbalanced : BalancedPieces inner) (htyping : ∀ p ∈ inner, isTyping p = true)
      (hps : ClosedPieces ps) : ClosedPieces (.of .less :: (inner ++ .of .greater :: ps))

/-- An expression is passed over. -/
theorem ClosedPieces.afterExpression {ps : List Piece} (h : ClosedPieces ps) :
    ∀ {ts : Tokens}, Reads ps ts → ∀ rest,
      Reader.afterExpression 0 0 (ts ++ rest) = Reader.afterExpression 0 0 rest := by
  induction h with
  | nil =>
      intro ts hts rest
      cases hts
      rfl
  | cons hp _ ih =>
      intro ts hts rest
      obtain ⟨gaps, us, hus, rfl⟩ := reads_cons_iff.mp hts
      rw [List.append_assoc, (hp gaps).afterExpression, ih hus.reads]
  | group hopens hinner hcloses _ ih =>
      intro ts hts rest
      obtain ⟨gaps, us, hus, rfl⟩ := reads_mark_iff.mp hts
      obtain ⟨vs, ws, hvs, hws, rfl⟩ := spells_append_iff.mp hus
      obtain ⟨gaps', xs, hxs, rfl⟩ := reads_mark_iff.mp hws.reads
      rw [List.cons_append, List.append_assoc, List.cons_append,
        afterExpression_opening (isOpening_mark gaps hopens),
        (hinner.balanced hvs.reads).afterExpression,
        afterExpression_closing (isClosing_mark gaps' hcloses), ih hxs.reads]
  | arguments hinner _ htyping _ ih =>
      intro ts hts rest
      obtain ⟨gaps, us, hus, rfl⟩ := reads_mark_iff.mp hts
      obtain ⟨vs, ws, hvs, hws, rfl⟩ := spells_append_iff.mp hus
      obtain ⟨t, xs, ht, hxs, rfl⟩ := hws.reads.mark
      have hskip := afterExpression_skip (vs ++ [t]) 0 (xs ++ rest)
      rw [List.length_append, List.length_singleton, List.append_assoc, List.singleton_append] at hskip
      rw [List.cons_append, List.append_assoc, List.cons_append, afterExpression_less (by simp),
        anglesLength_arguments hinner htyping hvs.reads ht, hskip, ih hxs.reads]

/-! ### The end of a declaration -/

section Semicolon

variable {t : Token}

theorem afterSemicolon_opening (h : isOpening t = true) (depth : Nat) (ts : Tokens) :
    afterSemicolon depth (t :: ts) = afterSemicolon (depth + 1) ts := by
  have hsemicolon : t.isMark ';' = false := by
    obtain ⟨c, hc, hmark⟩ := isOpening_cases h
    exact isMark_false_of_ne hmark fun heq => absurd (heq ▸ hc) (by decide)
  rw [afterSemicolon.eq_def]
  simp [h, hsemicolon]

theorem afterSemicolon_closing (h : isClosing t = true) (depth : Nat) (ts : Tokens) :
    afterSemicolon (depth + 1) (t :: ts) = afterSemicolon depth ts := by
  rw [afterSemicolon.eq_def]
  simp [h, isOpening_of_isClosing h]

theorem afterSemicolon_other (hopens : isOpening t = false) (hcloses : isClosing t = false)
    {depth : Nat} (h : depth ≠ 0 ∨ t.isMark ';' = false) (ts : Tokens) :
    afterSemicolon depth (t :: ts) = afterSemicolon depth ts := by
  have hsemicolon : (decide (depth = 0) && t.isMark ';') = false := by
    rcases h with h | h
    · simp [h]
    · simp [h]
  rw [afterSemicolon.eq_def]
  simp only [hsemicolon, hopens, hcloses, Bool.false_eq_true, ↓reduceIte]

theorem afterSemicolon_end (h : t.isMark ';' = true) (ts : Tokens) :
    afterSemicolon 0 (t :: ts) = ts := by
  simp [afterSemicolon, h]

end Semicolon

/-- Balanced tokens are passed over, if no semicolon stands outside brackets. -/
theorem Balanced.afterSemicolon {ts : Tokens} (h : Balanced ts) :
    ∀ {depth : Nat}, (depth ≠ 0 ∨ ∀ t ∈ ts, t.isMark ';' = false) → ∀ rest,
      Reader.afterSemicolon depth (ts ++ rest) = Reader.afterSemicolon depth rest := by
  induction h with
  | nil => exact fun _ _ => rfl
  | cons hopens hcloses _ ih =>
      intro depth hsemicolon rest
      have hfirst := hsemicolon.imp_right fun hall => (List.forall_mem_cons.mp hall).1
      have hbehind := hsemicolon.imp_right fun hall => (List.forall_mem_cons.mp hall).2
      rw [List.cons_append, afterSemicolon_other hopens hcloses hfirst, ih hbehind]
  | group hopens _ hcloses _ ihinner ih =>
      intro depth hsemicolon rest
      have hbehind := hsemicolon.imp_right fun hall =>
        (List.forall_mem_cons.mp (List.forall_mem_append.mp (List.forall_mem_cons.mp hall).2).2).2
      rw [List.cons_append, List.append_assoc, List.cons_append, afterSemicolon_opening hopens,
        ihinner (.inl (Nat.succ_ne_zero _)), afterSemicolon_closing hcloses, ih hbehind]

theorem Closed.afterSemicolon {ts : Tokens} (h : Closed ts) (rest : Tokens) :
    Reader.afterSemicolon 0 (ts ++ rest) = Reader.afterSemicolon 0 rest := by
  induction h with
  | nil => rfl
  | cons ht _ ih =>
      simp only [isInert, Bool.and_eq_true, Bool.not_eq_true'] at ht
      rw [List.cons_append, afterSemicolon_other ht.1.1.1.1 ht.1.1.1.2 (.inr ht.1.2), ih]
  | group hopens hinner hcloses _ ih =>
      rw [List.cons_append, List.append_assoc, List.cons_append, afterSemicolon_opening hopens,
        hinner.afterSemicolon (.inl (Nat.succ_ne_zero _)), afterSemicolon_closing hcloses, ih]

theorem not_semicolon_of_isTyping {ps : List Piece} (h : ∀ p ∈ ps, isTyping p = true) {ts : Tokens}
    (hts : Reads ps ts) : ∀ t ∈ ts, t.isMark ';' = false := by
  refine forall_mem_of_reads (fun p hp gaps t ht => ?_) hts
  rcases isTyping_run (h p hp) gaps t ht with hword | hmark | hopens | hcloses
  · simp [Token.isMark, hword]
  · have hcases : ∃ c ∈ ['.', ',', '?', '[', ']', '@'], t.isMark c = true := by
      simpa [isTypeMark, or_assoc] using hmark
    obtain ⟨c, hc, hmark⟩ := hcases
    exact isMark_false_of_ne hmark fun heq => absurd (heq ▸ hc) (by decide)
  · exact isMark_false_of_ne hopens (by decide)
  · exact isMark_false_of_ne hcloses (by decide)

/-- An expression is passed over up to the semicolon behind it. -/
theorem ClosedPieces.afterSemicolon {ps : List Piece} (h : ClosedPieces ps) :
    ∀ {ts : Tokens}, Reads ps ts → ∀ rest,
      Reader.afterSemicolon 0 (ts ++ rest) = Reader.afterSemicolon 0 rest := by
  induction h with
  | nil =>
      intro ts hts rest
      cases hts
      rfl
  | cons hp _ ih =>
      intro ts hts rest
      obtain ⟨gaps, us, hus, rfl⟩ := reads_cons_iff.mp hts
      rw [List.append_assoc, (hp gaps).afterSemicolon, ih hus.reads]
  | group hopens hinner hcloses _ ih =>
      intro ts hts rest
      obtain ⟨gaps, us, hus, rfl⟩ := reads_mark_iff.mp hts
      obtain ⟨vs, ws, hvs, hws, rfl⟩ := spells_append_iff.mp hus
      obtain ⟨gaps', xs, hxs, rfl⟩ := reads_mark_iff.mp hws.reads
      rw [List.cons_append, List.append_assoc, List.cons_append,
        afterSemicolon_opening (isOpening_mark gaps hopens),
        (hinner.balanced hvs.reads).afterSemicolon (.inl (Nat.succ_ne_zero _)),
        afterSemicolon_closing (isClosing_mark gaps' hcloses), ih hxs.reads]
  | arguments _ hbalanced htyping _ ih =>
      intro ts hts rest
      obtain ⟨t, us, ht, hus, rfl⟩ := hts.mark
      obtain ⟨vs, ws, hvs, hws, rfl⟩ := spells_append_iff.mp hus
      obtain ⟨u, xs, hu, hxs, rfl⟩ := hws.reads.mark
      have hsemicolon := not_semicolon_of_isTyping htyping hvs.reads
      have hangle : ∀ {v : Token} {c : Char}, v.isMark c = true → c ∈ ['<', '>'] → ∀ us,
          Reader.afterSemicolon 0 (v :: us) = Reader.afterSemicolon 0 us := by
        intro v c hv hc us
        have hne : ∀ d ∈ ['(', '[', '\x7b', ')', ']', '\x7d', ';'], v.isMark d = false := by
          have hmarks : ∀ c ∈ ['<', '>'], c ∉ ['(', '[', '\x7b', ')', ']', '\x7d', ';'] :=
            forall_mem_of_all (by decide)
          exact fun d hd => isMark_false_of_ne hv fun heq => hmarks c hc (heq ▸ hd)
        refine afterSemicolon_other ?_ ?_ (.inr (hne ';' (by decide))) us
        · simp [isOpening, hne]
        · simp [isClosing, hne]
      rw [List.cons_append, List.append_assoc, List.cons_append, hangle ht (by decide),
        (hbalanced.balanced hvs.reads).afterSemicolon (.inr hsemicolon), hangle hu (by decide),
        ih hxs.reads]

end ServiceAtlas.Java
