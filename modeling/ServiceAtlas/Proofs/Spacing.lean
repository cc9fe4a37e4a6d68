/-
Words and the single spaces between them.

Cutting a text into words and putting single spaces back forgets the blanks of a text and nothing
else.  What is left has no blank in it but single spaces between words, so it has no line boundary
of any kind, it stands as it is when it is trimmed or cut again, and any of its spaces may be
replaced by other blanks without changing its words (`words_append_blank`).
-/
import ServiceAtlas.Proofs.Literal
import ServiceAtlas.Proofs.Trimming
import ServiceAtlas.Text.Lines
import ServiceAtlas.Text.Split

namespace ServiceAtlas.Text

open ServiceAtlas.Literal (onto)

theorem not_isBlank_of_eq_false {c : Char} (h : isBlank c = false) : ¬isBlank c = true := by
  simp [h]

theorem isBlank_of_isLineEnd {c : Char} (h : isLineEnd c = true) : isBlank c = true := by
  simp only [isLineEnd, isBlank, Bool.or_eq_true, Bool.and_eq_true, decide_eq_true_eq,
    beq_iff_eq] at h ⊢
  omega

/-! ### Words -/

theorem words_blank {c : Char} (hc : isBlank c = true) (cs : List Char) :
    words (c :: cs) = words cs :=
  if_pos hc

theorem words_lone {c : Char} (hc : isBlank c = false) : words [c] = [[c]] :=
  if_neg (not_isBlank_of_eq_false hc)

/-- The next character decides whether a character is a word of its own. -/
theorem words_unblank {c : Char} (hc : isBlank c = false) (d : Char) (cs : List Char) :
    words (c :: d :: cs)
      = if isBlank d then [c] :: words (d :: cs) else onto c (words (d :: cs)) := by
  refine (if_neg (not_isBlank_of_eq_false hc)).trans ?_
  cases words (d :: cs) with
  | nil => exact (ite_self _).symm
  | cons w ws => rfl

theorem words_before_blank {c d : Char} (hc : isBlank c = false) (hd : isBlank d = true)
    (cs : List Char) : words (c :: d :: cs) = [c] :: words (d :: cs) :=
  (words_unblank hc d cs).trans (if_pos hd)

theorem words_inside {c d : Char} (hc : isBlank c = false) (hd : isBlank d = false)
    (cs : List Char) : words (c :: d :: cs) = onto c (words (d :: cs)) :=
  (words_unblank hc d cs).trans (if_neg (not_isBlank_of_eq_false hd))

theorem onto_ne_nil (c : Char) (ps : List (List Char)) : onto c ps ≠ [] := by
  cases ps <;> exact List.cons_ne_nil _ _

theorem onto_append (c : Char) {ps : List (List Char)} (h : ps ≠ []) (qs : List (List Char)) :
    onto c (ps ++ qs) = onto c ps ++ qs := by
  cases ps with
  | nil => exact absurd rfl h
  | cons p ps => rfl

theorem words_ne_nil {c : Char} (hc : isBlank c = false) (cs : List Char) :
    words (c :: cs) ≠ [] := by
  cases cs with
  | nil => rw [words_lone hc]; exact List.cons_ne_nil _ _
  | cons d cs =>
      by_cases hd : isBlank d = true
      · rw [words_before_blank hc hd]; exact List.cons_ne_nil _ _
      · rw [words_inside hc (by simpa using hd)]; exact onto_ne_nil _ _

/-- What stands in front of a blank and what stands behind it are cut independently. -/
theorem words_append_blank {b : Char} (hb : isBlank b = true) (cs ds : List Char) :
    words (cs ++ b :: ds) = words cs ++ words ds := by
  induction cs with
  | nil => exact words_blank hb ds
  | cons c cs ih =>
      by_cases hc : isBlank c = true
      · rw [List.cons_append, words_blank hc, words_blank hc, ih]
      have hc : isBlank c = false := by simpa using hc
      cases cs with
      | nil =>
          show words (c :: b :: ds) = words [c] ++ words ds
          rw [words_before_blank hc hb, words_lone hc, words_blank hb]
          rfl
      | cons d cs =>
          by_cases hd : isBlank d = true
          · show words (c :: d :: (cs ++ b :: ds)) = _
            rw [words_before_blank hc hd, words_before_blank hc hd]
            exact congrArg ([c] :: ·) ih
          · have hd : isBlank d = false := by simpa using hd
            show words (c :: d :: (cs ++ b :: ds)) = _
            rw [words_inside hc hd, words_inside hc hd, ← onto_append c (words_ne_nil hd cs)]
            exact congrArg (onto c) ih

theorem words_of_blanks {bs : List Char} (h : ∀ b ∈ bs, isBlank b = true) : words bs = [] := by
  induction bs with
  | nil => rfl
  | cons b bs ih =>
      obtain ⟨hb, hbs⟩ := List.forall_mem_cons.mp h
      rw [words_blank hb, ih hbs]

theorem words_dropWhile_isBlank (cs : List Char) : words (cs.dropWhile isBlank) = words cs := by
  induction cs with
  | nil => rfl
  | cons c cs ih =>
      by_cases hc : isBlank c = true
      · rw [List.dropWhile_cons_of_pos hc, words_blank hc, ih]
      · rw [List.dropWhile_cons_of_neg hc]

/-- Blanks at the end of a text are not seen in its words. -/
theorem words_trimEndWhere_isBlank (cs : List Char) :
    words (trimEndWhere isBlank cs) = words cs := by
  have hblanks : ∀ b ∈ cs.rtakeWhile isBlank, isBlank b = true := fun b hb =>
    List.mem_rtakeWhile_imp hb
  have hsplit : trimEndWhere isBlank cs ++ cs.rtakeWhile isBlank = cs :=
    List.rdropWhile_append_rtakeWhile
  generalize cs.rtakeWhile isBlank = bs at hblanks hsplit
  cases bs with
  | nil => rw [← hsplit, List.append_nil, trimEndWhere_idempotent]
  | cons b bs =>
      obtain ⟨hb, hbs⟩ := List.forall_mem_cons.mp hblanks
      conv => rhs; rw [← hsplit]
      rw [words_append_blank hb, words_of_blanks hbs, List.append_nil]

theorem words_join : ∀ ps : List (List Char), words (join [' '] ps) = ps.flatMap words
  | [] => rfl
  | [p] => by simp [join]
  | p :: q :: ps => by
      have hjoin : join [' '] (p :: q :: ps) = p ++ ' ' :: join [' '] (q :: ps) := by
        rw [join, List.append_assoc]
        rfl
      rw [hjoin, words_append_blank rfl, words_join (q :: ps)]
      rfl

/-- A word: characters that are not blank, at least one. -/
structure IsWord (w : List Char) : Prop where
  ne_nil : w ≠ []
  unblank : ∀ c ∈ w, isBlank c = false

instance : DecidablePred IsWord := fun w =>
  decidable_of_iff (w ≠ [] ∧ (w.all fun c => !isBlank c) = true)
    ⟨fun h => ⟨h.1, by simpa using h.2⟩, fun h => ⟨h.ne_nil, by simpa using h.unblank⟩⟩

theorem IsWord.cons {c : Char} {w : List Char} (hc : isBlank c = false) (hw : IsWord w) :
    IsWord (c :: w) :=
  ⟨List.cons_ne_nil _ _, List.forall_mem_cons.mpr ⟨hc, hw.unblank⟩⟩

theorem isWord_lone {c : Char} (hc : isBlank c = false) : IsWord [c] :=
  ⟨List.cons_ne_nil _ _, by simpa using hc⟩

theorem words_of_isWord {w : List Char} (hw : IsWord w) : words w = [w] := by
  obtain ⟨hne, hw⟩ := hw
  induction w with
  | nil => exact absurd rfl hne
  | cons c w ih =>
      rw [List.forall_mem_cons] at hw
      cases w with
      | nil => exact words_lone hw.1
      | cons d w =>
          have hd : isBlank d = false := hw.2 d List.mem_cons_self
          rw [words_inside hw.1 hd, ih (List.cons_ne_nil _ _) hw.2]
          rfl

theorem isWord_of_mem_words {cs : List Char} : ∀ w ∈ words cs, IsWord w := by
  induction cs with
  | nil => exact nofun
  | cons c cs ih =>
      by_cases hc : isBlank c = true
      · rwa [words_blank hc]
      have hc : isBlank c = false := by simpa using hc
      cases cs with
      | nil =>
          rw [words_lone hc]
          exact List.forall_mem_singleton.mpr (isWord_lone hc)
      | cons d cs =>
          by_cases hd : isBlank d = true
          · rw [words_before_blank hc hd]
            exact List.forall_mem_cons.mpr ⟨isWord_lone hc, ih⟩
          · have hd : isBlank d = false := by simpa using hd
            rw [words_inside hc hd]
            obtain ⟨w, ws, hws⟩ := List.exists_cons_of_ne_nil (words_ne_nil hd cs)
            rw [hws] at ih ⊢
            rw [List.forall_mem_cons] at ih
            exact List.forall_mem_cons.mpr ⟨ih.1.cons hc, ih.2⟩

/-! ### Lines -/

/-- A text on one line. -/
def IsLine (l : List Char) : Prop :=
  ∀ c ∈ l, isLineEnd c = false

instance : DecidablePred IsLine := fun l =>
  decidable_of_iff ((l.all fun c => !isLineEnd c) = true) (by simp [IsLine])

theorem isLine_cons {c : Char} {l : List Char} :
    IsLine (c :: l) ↔ isLineEnd c = false ∧ IsLine l :=
  List.forall_mem_cons

theorem isLine_append {l k : List Char} : IsLine (l ++ k) ↔ IsLine l ∧ IsLine k :=
  List.forall_mem_append

theorem IsWord.isLine {w : List Char} (hw : IsWord w) : IsLine w := by
  intro c hc
  by_contra hend
  have hend : isLineEnd c = true := by simpa using hend
  exact not_isBlank_of_eq_false (hw.unblank c hc) (isBlank_of_isLineEnd hend)

/-! ### Single spaces -/

theorem unwords_cons {w : List Char} {ws : List (List Char)} (h : ws ≠ []) :
    unwords (w :: ws) = w ++ ' ' :: unwords ws := by
  cases ws with
  | nil => exact absurd rfl h
  | cons v ws => rfl

theorem words_unwords : ∀ {ws : List (List Char)}, (∀ w ∈ ws, IsWord w) → words (unwords ws) = ws
  | [], _ => rfl
  | [w], h => words_of_isWord (h w List.mem_cons_self)
  | w :: v :: ws, h => by
      rw [List.forall_mem_cons] at h
      rw [unwords, words_append_blank rfl, words_of_isWord h.1, words_unwords h.2]
      rfl

/-- The text has single spaces between its words and no other blanks. -/
def IsSpaced (cs : List Char) : Prop :=
  squeeze cs = cs

instance : DecidablePred IsSpaced :=
  fun cs => inferInstanceAs (Decidable (squeeze cs = cs))

theorem squeeze_congr {cs ds : List Char} (h : words cs = words ds) : squeeze cs = squeeze ds :=
  congrArg unwords h

theorem isSpaced_squeeze (cs : List Char) : IsSpaced (squeeze cs) :=
  squeeze_congr (words_unwords isWord_of_mem_words)

theorem isSpaced_of_isWord {w : List Char} (hw : IsWord w) : IsSpaced w := by
  rw [IsSpaced, squeeze, words_of_isWord hw]
  rfl

theorem IsSpaced.words_ne_nil {cs : List Char} (h : IsSpaced cs) (hne : cs ≠ []) :
    words cs ≠ [] := by
  intro hnil
  rw [IsSpaced, squeeze, hnil] at h
  exact hne h.symm

theorem unwords_append {ws vs : List (List Char)} (hws : ws ≠ []) (hvs : vs ≠ []) :
    unwords (ws ++ vs) = unwords ws ++ ' ' :: unwords vs := by
  induction ws with
  | nil => exact absurd rfl hws
  | cons w ws ih =>
      by_cases hnil : ws = []
      · subst hnil
        exact unwords_cons hvs
      · rw [List.cons_append, unwords_cons (by simp [hnil]), ih hnil, unwords_cons hnil]
        simp

/-- Where texts meet without a space, the last word of the one and the first of the other are one
word. -/
theorem unwords_merge (ws : List (List Char)) (v w : List Char) (us : List (List Char)) :
    unwords (ws ++ [v]) ++ unwords (w :: us) = unwords (ws ++ (v ++ w) :: us) := by
  induction ws with
  | nil => cases us <;> simp [unwords]
  | cons u ws ih =>
      have hne (x : List Char) (xs : List (List Char)) : ws ++ x :: xs ≠ [] := by simp
      rw [List.cons_append, List.cons_append, unwords_cons (hne v []), unwords_cons (hne _ us), ← ih,
        List.append_assoc]
      rfl

/-- Texts with single spaces are put together with a single space. -/
theorem IsSpaced.append {cs ds : List Char} (hcs : IsSpaced cs) (hds : IsSpaced ds)
    (hc : cs ≠ []) (hd : ds ≠ []) : IsSpaced (cs ++ ' ' :: ds) := by
  rw [IsSpaced, squeeze, words_append_blank rfl,
    unwords_append (hcs.words_ne_nil hc) (hds.words_ne_nil hd)]
  exact congrArg₂ (· ++ ' ' :: ·) hcs hds

/-- Texts with single spaces are put together without one. -/
theorem IsSpaced.glue {cs ds : List Char} (hcs : IsSpaced cs) (hds : IsSpaced ds)
    (hc : cs ≠ []) (hd : ds ≠ []) : IsSpaced (cs ++ ds) := by
  have hlast := List.dropLast_concat_getLast (hcs.words_ne_nil hc)
  obtain ⟨w, us, hus⟩ := List.exists_cons_of_ne_nil (hds.words_ne_nil hd)
  generalize (words cs).dropLast = ws, (words cs).getLast _ = v at hlast
  have hleft := @isWord_of_mem_words cs
  have hright := @isWord_of_mem_words ds
  rw [← hlast, List.forall_mem_append, List.forall_mem_singleton] at hleft
  rw [hus, List.forall_mem_cons] at hright
  have hword : IsWord (v ++ w) := by
    refine ⟨by simp [hleft.2.ne_nil], fun c hc => ?_⟩
    exact (List.mem_append.mp hc).elim (hleft.2.unblank c) (hright.1.unblank c)
  have hwords : ∀ u ∈ ws ++ (v ++ w) :: us, IsWord u :=
    List.forall_mem_append.mpr ⟨hleft.1, List.forall_mem_cons.mpr ⟨hword, hright.2⟩⟩
  have hboth : cs ++ ds = unwords (ws ++ (v ++ w) :: us) := by
    rw [← unwords_merge, hlast, ← hus]
    exact congrArg₂ (· ++ ·) hcs.symm hds.symm
  rw [hboth, IsSpaced, squeeze, words_unwords hwords]

/-- A text of words that is cut at a space is cut between two of its words. -/
theorem unwords_eq_append_space {ws : List (List Char)} (hws : ∀ w ∈ ws, IsWord w) :
    ∀ {cs ds : List Char}, unwords ws = cs ++ ' ' :: ds →
      ∃ us vs, us ≠ [] ∧ vs ≠ [] ∧ ws = us ++ vs ∧ cs = unwords us ∧ ds = unwords vs := by
  induction ws with
  | nil => intro cs ds h; simp [unwords] at h
  | cons w ws ih =>
      intro cs ds h
      rw [List.forall_mem_cons] at hws
      have hspace : ' ' ∉ w := fun hmem => absurd (hws.1.unblank ' ' hmem) (by decide)
      by_cases hnil : ws = []
      · subst hnil
        change w = cs ++ ' ' :: ds at h
        simp [h] at hspace
      rw [unwords_cons hnil] at h
      rcases List.append_eq_append_iff.mp h with ⟨as, hcs, hrest⟩ | ⟨as, hw, hrest⟩
      · cases as with
        | nil =>
            rw [List.nil_append, List.cons_inj_right] at hrest
            exact ⟨[w], ws, by simp, hnil, rfl, by rw [hcs, List.append_nil]; rfl, hrest.symm⟩
        | cons a as =>
            rw [List.cons_append, List.cons_eq_cons] at hrest
            obtain ⟨rfl, hrest⟩ := hrest
            obtain ⟨us, vs, hus, hvs, rfl, rfl, rfl⟩ := ih hws.2 hrest
            exact ⟨w :: us, vs, by simp, hvs, rfl, by rw [hcs, unwords_cons hus], rfl⟩
      · cases as with
        | nil =>
            rw [List.nil_append, List.cons_inj_right] at hrest
            rw [List.append_nil] at hw
            exact ⟨[w], ws, by simp, hnil, rfl, hw.symm, hrest⟩
        | cons a as =>
            rw [List.cons_append, List.cons_eq_cons] at hrest
            simp [hw, ← hrest.1] at hspace

/-- On both sides of a space a text with single spaces is one again. -/
theorem IsSpaced.of_append {cs ds : List Char} (h : IsSpaced (cs ++ ' ' :: ds)) :
    IsSpaced cs ∧ IsSpaced ds := by
  have hwords := @isWord_of_mem_words (cs ++ ' ' :: ds)
  obtain ⟨us, vs, -, -, hsplit, rfl, rfl⟩ := unwords_eq_append_space hwords h
  rw [hsplit, List.forall_mem_append] at hwords
  exact ⟨congrArg unwords (words_unwords hwords.1), congrArg unwords (words_unwords hwords.2)⟩

/-- Between words there are spaces, and no other blanks are left. -/
theorem eq_space_of_mem_squeeze {c : Char} {cs : List Char} (hc : c ∈ squeeze cs)
    (hblank : isBlank c = true) : c = ' ' := by
  have hwords : ∀ {ws : List (List Char)}, (∀ w ∈ ws, IsWord w) → c ∈ unwords ws → c = ' ' := by
    intro ws hws hmem
    induction ws with
    | nil => cases hmem
    | cons w ws ih =>
        rw [List.forall_mem_cons] at hws
        have hw : c ∉ w := fun h => not_isBlank_of_eq_false (hws.1.unblank c h) hblank
        by_cases hnil : ws = []
        · subst hnil
          exact absurd hmem hw
        · rw [unwords_cons hnil, List.mem_append, List.mem_cons] at hmem
          rcases hmem with h | h | h
          · exact absurd h hw
          · exact h
          · exact ih hws.2 h
  exact hwords isWord_of_mem_words hc

theorem IsWord.head?_isBlank {w : List Char} (hw : IsWord w) : w.head?.any isBlank = false := by
  obtain ⟨c, w, rfl⟩ := List.exists_cons_of_ne_nil hw.ne_nil
  exact hw.unblank c List.mem_cons_self

theorem IsWord.getLast?_isBlank {w : List Char} (hw : IsWord w) :
    w.getLast?.any isBlank = false := by
  rw [List.getLast?_eq_some_getLast hw.ne_nil]
  exact hw.unblank _ (List.getLast_mem hw.ne_nil)

theorem tight_unwords {ws : List (List Char)} (hne : ws ≠ []) (hws : ∀ w ∈ ws, IsWord w) :
    Literal.Tight (unwords ws) := by
  induction ws with
  | nil => exact absurd rfl hne
  | cons w ws ih =>
      rw [List.forall_mem_cons] at hws
      by_cases hnil : ws = []
      · subst hnil
        exact ⟨hws.1.ne_nil, hws.1.head?_isBlank, hws.1.getLast?_isBlank⟩
      · have hrest := ih hnil hws.2
        rw [unwords_cons hnil]
        obtain ⟨c, w, rfl⟩ := List.exists_cons_of_ne_nil hws.1.ne_nil
        refine ⟨List.cons_ne_nil _ _, hws.1.head?_isBlank, ?_⟩
        have hlast := hrest.last
        rw [List.getLast?_eq_some_getLast hrest.ne_nil] at hlast
        rw [List.getLast?_append, List.getLast?_cons, List.getLast?_eq_some_getLast hrest.ne_nil]
        exact hlast

/-- A text with single spaces has no blanks around it. -/
theorem IsSpaced.trim_eq {cs : List Char} (h : IsSpaced cs) : trim cs = cs := by
  by_cases hnil : words cs = []
  · have hcs : cs = [] := by rw [← h, squeeze, hnil]; rfl
    rw [hcs]
    rfl
  · rw [← h]
    exact Literal.trim_tight (tight_unwords hnil isWord_of_mem_words)

/-- No two spaces stand side by side. -/
theorem IsSpaced.not_twoSpaces {cs : List Char} (h : IsSpaced cs) : ¬[' ', ' '] <:+: cs := by
  rintro ⟨before, behind, rfl⟩
  rw [List.append_assoc] at h
  have hblank := head_of_trimWhere_eq h.of_append.2.trim_eq
  exact absurd hblank (by decide)

/-- A text with single spaces is on one line. -/
theorem IsSpaced.isLine {cs : List Char} (h : IsSpaced cs) : IsLine cs := by
  intro c hc
  by_contra hend
  have hend : isLineEnd c = true := by simpa using hend
  rw [← h] at hc
  rw [eq_space_of_mem_squeeze hc (isBlank_of_isLineEnd hend)] at hend
  exact absurd hend (by decide)

end ServiceAtlas.Text
