/-
The summary of a description is its first sentence.

A description is cut at its first blank line, its blanks are squeezed to single spaces, and what is
left is cut behind the first full stop that a space follows, its very first character not counted.
`IsSentence` says what that cut is without saying how it is found: there is one such sentence to a
text and no other (`IsSentence.eq`), so a sentence that is cut again stays whole, and so does the
summary of a summary.

A summary is empty only where the description begins with blanks or a blank line.  A description
that was read from a comment is trimmed, so it has a summary unless it is empty itself.
-/
import ServiceAtlas.Javadoc
import ServiceAtlas.Proofs.Spacing

namespace ServiceAtlas

open Text

namespace Documentation

/-! ### The first paragraph -/

/-- What stands between paragraphs. -/
def blankLine : List Char :=
  ['\n', '\n']

/-- A description goes on with a blank line behind its first paragraph, or ends there, and no blank
line begins earlier. -/
structure IsParagraph (p d : List Char) : Prop where
  behind : p = d ∨ p ++ blankLine <+: d
  first : ∀ q, q ++ blankLine <+: d → p.length ≤ q.length

theorem firstParagraph_cons {c : Char} {cs : List Char} (h : ¬blankLine <+: c :: cs) :
    firstParagraph (c :: cs) = c :: firstParagraph cs := by
  rw [firstParagraph.eq_def]
  split
  case h_1 heq => cases heq
  case h_2 rest heq => exact absurd (heq ▸ List.prefix_append blankLine rest) h
  case h_3 heq => cases heq; rfl

theorem isParagraph_firstParagraph (d : List Char) : IsParagraph (firstParagraph d) d := by
  induction d with
  | nil => exact ⟨.inl rfl, fun q _ => Nat.zero_le _⟩
  | cons c cs ih =>
      by_cases h : blankLine <+: c :: cs
      · obtain ⟨rest, hrest⟩ := h
        have hnone : firstParagraph (c :: cs) = [] := by rw [← hrest]; rfl
        rw [hnone]
        exact ⟨.inr ⟨rest, hrest⟩, fun q _ => Nat.zero_le _⟩
      · rw [firstParagraph_cons h]
        refine ⟨?_, fun q hq => ?_⟩
        · rcases ih.behind with hall | hbehind
          · exact .inl (congrArg (c :: ·) hall)
          · exact .inr (List.cons_prefix_cons.mpr ⟨rfl, hbehind⟩)
        · cases q with
          | nil => exact absurd hq h
          | cons a q =>
              rw [List.cons_append, List.cons_prefix_cons] at hq
              exact Nat.succ_le_succ (ih.first q hq.2)

/-- A text without line feeds is one paragraph. -/
theorem firstParagraph_of_isLine {cs : List Char} (h : IsLine cs) : firstParagraph cs = cs := by
  induction cs with
  | nil => rfl
  | cons c cs ih =>
      obtain ⟨hc, hcs⟩ := isLine_cons.mp h
      have hfront : ¬blankLine <+: c :: cs := by
        rw [blankLine, List.cons_prefix_cons]
        rintro ⟨rfl, -⟩
        exact absurd hc (by decide)
      rw [firstParagraph_cons hfront, ih hcs]

/-! ### The first sentence -/

/-- A full stop and the space behind it. -/
def stopSpace : List Char :=
  ['.', ' ']

/-- A text is the sentence, or goes on with a space behind the full stop that ends the sentence; in
the sentence, its first character apart, no space follows a full stop. -/
structure IsSentence (s t : List Char) : Prop where
  ending : s = t ∨ ∃ front rest, front ≠ [] ∧ s = front ++ ['.'] ∧ t = s ++ ' ' :: rest
  first : ∀ front, front ++ stopSpace <+: s → front = []

namespace IsSentence

variable {s t : List Char}

theorem isPrefix (h : IsSentence s t) : s <+: t := by
  rcases h.ending with rfl | ⟨-, rest, -, -, rfl⟩
  · exact List.prefix_rfl
  · exact List.prefix_append _ _

/-- A sentence is its own first sentence. -/
theorem self (h : IsSentence s t) : IsSentence s s :=
  ⟨.inl rfl, h.first⟩

/-- A sentence that goes on to be a longer one would have a full stop and a space in it. -/
theorem le (hs : IsSentence s t) {r : List Char} (hr : IsSentence r t) :
    r.length ≤ s.length := by
  rcases hs.ending with rfl | ⟨front, rest, hfront, rfl, rfl⟩
  · exact hr.isPrefix.length_le
  · by_contra hlt
    have hlonger : front ++ stopSpace <+: front ++ ['.'] ++ ' ' :: rest :=
      ⟨rest, by simp [stopSpace]⟩
    refine hfront (hr.first front (List.prefix_of_prefix_length_le hlonger hr.isPrefix ?_))
    simp only [List.length_append, stopSpace, List.length_cons, List.length_nil] at hlt ⊢
    omega

/-- **A text has one first sentence.** -/
theorem eq (hs : IsSentence s t) {r : List Char} (hr : IsSentence r t) : r = s := by
  have hlength : r.length = s.length := Nat.le_antisymm (hs.le hr) (hr.le hs)
  exact (List.prefix_of_prefix_length_le hr.isPrefix hs.isPrefix hlength.le).eq_of_length hlength

theorem isSpaced (h : IsSentence s t) (ht : IsSpaced t) : IsSpaced s := by
  rcases h.ending with rfl | ⟨-, rest, -, -, rfl⟩
  · exact ht
  · exact ht.of_append.1

end IsSentence

theorem throughStop_cons {c : Char} {cs : List Char} (h : ¬stopSpace <+: c :: cs) :
    throughStop (c :: cs) = c :: throughStop cs := by
  rw [throughStop.eq_def]
  split
  case h_1 heq => cases heq
  case h_2 heq => cases heq; rfl
  case h_3 rest heq => exact absurd (heq ▸ List.prefix_append stopSpace rest) h
  case h_4 heq => cases heq; rfl

/-- The text through the first full stop that a space follows, wherever it stands. -/
theorem throughStop_ends (cs : List Char) :
    (throughStop cs = cs ∨ ∃ front rest, throughStop cs = front ++ ['.']
        ∧ cs = throughStop cs ++ ' ' :: rest)
      ∧ ¬stopSpace <:+: throughStop cs := by
  induction cs with
  | nil => exact ⟨.inl rfl, by decide⟩
  | cons c cs ih =>
      obtain ⟨hends, hnone⟩ := ih
      by_cases h : stopSpace <+: c :: cs
      · obtain ⟨rest, hrest⟩ := h
        have hstop : throughStop (c :: cs) = ['.'] := by rw [← hrest]; rfl
        rw [hstop]
        exact ⟨.inr ⟨[], rest, rfl, hrest.symm⟩, by decide⟩
      · rw [throughStop_cons h, List.infix_cons_iff, not_or]
        have hprefix : throughStop cs <+: cs := by
          rcases hends with hall | ⟨-, rest, -, hrest⟩
          · exact ⟨[], by rw [List.append_nil, hall]⟩
          · exact ⟨_, hrest.symm⟩
        refine ⟨?_, fun hfront => ?_, hnone⟩
        · rcases hends with hall | ⟨front, rest, hfront, hrest⟩
          · exact .inl (congrArg (c :: ·) hall)
          · exact .inr ⟨c :: front, rest, congrArg (c :: ·) hfront, congrArg (c :: ·) hrest⟩
        · exact h (hfront.trans (List.cons_prefix_cons.mpr ⟨rfl, hprefix⟩))

theorem isSentence_firstSentence (t : List Char) : IsSentence (firstSentence t) t := by
  cases t with
  | nil => exact ⟨.inl rfl, fun front h => absurd (List.prefix_nil.mp h) (by simp [stopSpace])⟩
  | cons c cs =>
      obtain ⟨hends, hnone⟩ := throughStop_ends cs
      rw [firstSentence]
      refine ⟨?_, fun front hfront => ?_⟩
      · rcases hends with hall | ⟨front, rest, hfront, hrest⟩
        · exact .inl (congrArg (c :: ·) hall)
        · exact .inr ⟨c :: front, rest, List.cons_ne_nil _ _, congrArg (c :: ·) hfront,
            congrArg (c :: ·) hrest⟩
      · cases front with
        | nil => rfl
        | cons a front =>
            rw [List.cons_append, List.cons_prefix_cons] at hfront
            exact absurd ((List.suffix_append front stopSpace).isInfix.trans hfront.2.isInfix) hnone

/-! ### Summaries -/

theorem isSpaced_summaryOf (d : List Char) : IsSpaced (summaryOf d) :=
  (isSentence_firstSentence _).isSpaced (isSpaced_squeeze _)

/-- The summary of a summary is the same. -/
theorem summaryOf_idempotent (d : List Char) : summaryOf (summaryOf d) = summaryOf d := by
  have hspaced := isSpaced_summaryOf d
  have hsentence := isSentence_firstSentence (squeeze (firstParagraph d))
  have hagain : squeeze (firstParagraph (summaryOf d)) = summaryOf d := by
    rw [firstParagraph_of_isLine hspaced.isLine, hspaced]
  rw [summaryOf, hagain]
  exact hsentence.self.eq (isSentence_firstSentence _)

/-- A trimmed description begins with a word. -/
theorem summaryOf_eq_nil_iff {d : List Char} (h : trim d = d) : summaryOf d = [] ↔ d = [] := by
  constructor
  · intro hnone
    cases d with
    | nil => rfl
    | cons c cs =>
        have hc : isBlank c = false := head_of_trimWhere_eq h
        have hfront : ¬blankLine <+: c :: cs := by
          rw [blankLine, List.cons_prefix_cons]
          rintro ⟨rfl, -⟩
          exact absurd hc (by decide)
        have hspaced := isSpaced_squeeze (c :: firstParagraph cs)
        rw [summaryOf, firstParagraph_cons hfront] at hnone
        cases hsqueezed : squeeze (c :: firstParagraph cs) with
        | nil =>
            refine absurd ?_ (words_ne_nil hc (firstParagraph cs))
            rw [← words_unwords isWord_of_mem_words]
            exact congrArg words hsqueezed
        | cons a as =>
            rw [hsqueezed] at hnone
            cases hnone
  · rintro rfl
    rfl

end Documentation

namespace Javadoc

theorem trim_clean (cs : List Char) : trim (clean cs) = clean cs := by
  unfold clean trim trimWhere
  rw [trimStartWhere_trimEndWhere, trimStartWhere_idempotent, trimEndWhere_idempotent]

theorem description_addBlock (d : Documentation) (b : Block) :
    (addBlock d b).description = d.description := by
  unfold addBlock
  dsimp only
  repeat' split
  all_goals rfl

theorem description_foldl_addBlock (bs : List Block) :
    ∀ d, (bs.foldl addBlock d).description = d.description := by
  induction bs with
  | nil => intro d; rfl
  | cons b bs ih =>
      intro d
      rw [List.foldl_cons, ih, description_addBlock]

/-- A description that was read is trimmed. -/
theorem trim_description (comment : List Char) :
    trim (parse comment).description.toList = (parse comment).description.toList := by
  unfold parse
  split
  · dsimp only
    rw [description_foldl_addBlock, String.toList_ofList, trim_clean]
  · rfl

end Javadoc

namespace Documentation

/--
**The summary of a description is its first sentence.**  It is the first sentence of the first
paragraph with single spaces, it is on one line, and it is its own summary.  The documentation that
is read from a comment has a summary whenever it has a description.
-/
theorem summary_isSentence (d : Documentation) (comment : List Char) :
    (∃ p, IsParagraph p d.description.toList ∧ d.summary.toList <+: squeeze p
        ∧ IsSentence d.summary.toList (squeeze p))
      ∧ IsLine d.summary.toList ∧ ¬[' ', ' '] <:+: d.summary.toList
      ∧ ({ d with description := d.summary } : Documentation).summary = d.summary
      ∧ ((Javadoc.parse comment).summary = "" ↔ (Javadoc.parse comment).description = "") := by
  have hchars : d.summary.toList = summaryOf d.description.toList := String.toList_ofList
  have hsentence := isSentence_firstSentence (squeeze (firstParagraph d.description.toList))
  have hspaced := isSpaced_summaryOf d.description.toList
  refine ⟨⟨_, isParagraph_firstParagraph _, ?_⟩, ?_, ?_, ?_, ?_⟩
  · rw [hchars]
    exact ⟨hsentence.isPrefix, hsentence⟩
  · rw [hchars]
    exact hspaced.isLine
  · rw [hchars]
    exact hspaced.not_twoSpaces
  · rw [summary, hchars, summaryOf_idempotent]
    rfl
  · rw [summary, String.ofList_eq_empty_iff, summaryOf_eq_nil_iff (Javadoc.trim_description comment),
      String.toList_eq_nil_iff]

end Documentation

end ServiceAtlas
