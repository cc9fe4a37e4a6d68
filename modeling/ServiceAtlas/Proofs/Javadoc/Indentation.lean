/-
Where the tag of a block may stand in its line.

Without an asterisk in front of it a tag may be indented as one likes.  Behind an asterisk one
space is taken off and no more, so a tag that touches its asterisk or follows it at one space
opens a block, and a tag that stands further away is text of what was written before.

A comment is cut at the line of the tag.  The lines in front of it and behind it do not depend on
how the tag is indented (`lines_append`, `exists_lines_append`), and neither does the closing mark
(`unclosed_append`); so two comments differ in the text of one line.
-/
import ServiceAtlas.Proofs.Javadoc.Blocks

namespace ServiceAtlas

namespace Text

/-! ### Words hold no blanks -/

theorem isBlank_of_isWordChar {c : Char} (hc : isWordChar c = true) : isBlank c = false := by
  rw [Bool.eq_false_iff]
  intro hblank
  have hcodes : ∀ n ∈ blankCodes, isWordChar (Char.ofNat n) = false := by decide +kernel
  have hnot := hcodes c.toNat (mem_blankCodes hblank)
  rw [Char.ofNat_toNat, hc] at hnot
  cases hnot

/-! ### Lines of a text in two parts -/

theorem lines_ne_nil {cs : List Char} (h : cs ≠ []) : lines cs ≠ [] := by
  rw [lines.eq_def]
  split
  case h_1 => exact absurd rfl h
  case h_2 => exact List.cons_ne_nil _ _
  case h_3 =>
    split
    · exact List.cons_ne_nil _ _
    · split <;> exact List.cons_ne_nil _ _

/-- A line goes on with the first line of what follows. -/
theorem lines_append_of_isLine {p : List Char} (hp : IsLine p) {cs l : List Char}
    {ls : List (List Char)} (h : lines cs = l :: ls) : lines (p ++ cs) = (p ++ l) :: ls := by
  induction p with
  | nil => exact h
  | cons c p ih =>
      obtain ⟨hc, hp⟩ := isLine_cons.mp hp
      have hrest := ih hp
      rw [List.cons_append, lines_inside hc (by simp [hrest]), hrest]
      rfl

/-- The first line of a text is its beginning. -/
theorem isPrefix_of_lines {cs l : List Char} {ls : List (List Char)} (h : lines cs = l :: ls) :
    l <+: cs := by
  induction cs generalizing l ls with
  | nil => cases h
  | cons c cs ih =>
      by_cases hc : isLineEnd c = true
      · have hl : l = [] := by
          rw [lines.eq_def] at h
          split at h
          case h_1 heq => cases heq
          case h_2 heq => cases h; rfl
          case h_3 heq => cases heq; rw [if_pos hc] at h; cases h; rfl
        rw [hl]
        exact List.nil_prefix
      · rw [Bool.not_eq_true] at hc
        by_cases hcs : cs = []
        · subst hcs
          rw [lines_lone hc] at h
          cases h
          exact List.prefix_rfl
        · obtain ⟨k, ks, hk⟩ := List.exists_cons_of_ne_nil (lines_ne_nil hcs)
          rw [lines_inside hc (lines_ne_nil hcs), hk] at h
          cases h
          exact List.cons_prefix_cons.mpr ⟨rfl, ih hk⟩

/-- The lines of what follows the beginning of a line do not depend on that beginning. -/
theorem exists_lines_append (cs : List Char) :
    ∃ l ls, l <+: cs ∧ ∀ p, IsLine p → p ≠ [] → lines (p ++ cs) = (p ++ l) :: ls := by
  by_cases hcs : cs = []
  · refine ⟨[], [], List.nil_prefix, fun p hp hne => ?_⟩
    rw [hcs, List.append_nil, lines_of_isLine hp, if_neg hne]
  · obtain ⟨l, ls, hl⟩ := List.exists_cons_of_ne_nil (lines_ne_nil hcs)
    exact ⟨l, ls, isPrefix_of_lines hl, fun p hp _ => lines_append_of_isLine hp hl⟩

/-- The text is empty or ends with the end of a line. -/
def EndsLine (cs : List Char) : Prop :=
  cs.getLast?.all isLineEnd = true

theorem EndsLine.tail {c : Char} {cs : List Char} (h : EndsLine (c :: cs)) : EndsLine cs := by
  cases cs with
  | nil => rfl
  | cons d cs => exact h

theorem EndsLine.ne_nil {c : Char} {cs : List Char} (h : EndsLine (c :: cs))
    (hc : ¬isLineEnd c = true) : cs ≠ [] := by
  rintro rfl
  exact hc h

theorem lines_append_inside {c : Char} (hc : ¬isLineEnd c = true) {xs ys : List Char}
    (hxs : xs ≠ []) (h : lines (xs ++ ys) = lines xs ++ lines ys) :
    lines (c :: xs ++ ys) = lines (c :: xs) ++ lines ys := by
  rw [Bool.not_eq_true] at hc
  have hne := lines_ne_nil hxs
  rw [List.cons_append, lines_inside hc (lines_ne_nil (by simp [hxs])), h, lines_inside hc hne,
    onto_append c hne]

/-- **Behind the end of a line the lines are those of the rest.** -/
theorem lines_append {xs : List Char} (hxs : EndsLine xs) {ys : List Char}
    (hys : ys.head? ≠ some '\n') : lines (xs ++ ys) = lines xs ++ lines ys := by
  induction xs using lines.induct with
  | case1 => rfl
  | case2 cs ih =>
      rw [List.cons_append, List.cons_append, lines.eq_2, lines.eq_2, ih hxs.tail.tail]
      rfl
  | case3 c cs hpair hc ih =>
      have hfirst : c = '\r' → cs.head? ≠ some '\n' := by
        rintro rfl hhead
        obtain ⟨rest, rfl⟩ := List.head?_eq_some_iff.mp hhead
        exact hpair rest rfl rfl
      have hboth : c = '\r' → (cs ++ ys).head? ≠ some '\n' := by
        cases cs with
        | nil => exact fun _ => hys
        | cons d cs => exact hfirst
      rw [List.cons_append, lines_of_isLineEnd hc hboth, lines_of_isLineEnd hc hfirst,
        ih hxs.tail]
      rfl
  | case4 c hc d cs l ls _ _ ih => exact lines_append_inside hc (hxs.ne_nil hc) (ih hxs.tail)
  | case5 c cs _ hc _ ih => exact lines_append_inside hc (hxs.ne_nil hc) (ih hxs.tail)

end Text

namespace Javadoc

open ServiceAtlas.Text

/-! ### The closing mark -/

theorem unclosed_eq {cs : List Char} (h : ¬"*/".toList <:+ cs) : unclosed cs = cs :=
  if_neg fun hclosed => h (List.isSuffixOf_iff_suffix.mp hclosed)

theorem unclosed_isPrefix (cs : List Char) : unclosed cs <+: cs := by
  unfold unclosed
  split
  · exact List.take_prefix _ _
  · exact List.prefix_rfl

/-- The closing mark does not reach over a character that is not in it. -/
theorem unclosed_append {c : Char} (hc : c ∉ "*/".toList) (front cs : List Char) :
    unclosed (front ++ c :: cs) = front ++ c :: unclosed cs := by
  by_cases h : "*/".toList <:+ cs
  · obtain ⟨inner, rfl⟩ := h
    have hwhole : front ++ c :: (inner ++ "*/".toList) = (front ++ c :: inner) ++ "*/".toList := by
      rw [List.append_assoc, List.cons_append]
    rw [hwhole, unclosed_closed, unclosed_closed]
  · have hwhole : ¬"*/".toList <:+ front ++ c :: cs := by
      rintro ⟨before, hbefore⟩
      rcases List.append_eq_append_iff.mp hbefore with ⟨rest, -, hrest⟩ | ⟨rest, -, hrest⟩
      · exact hc (by rw [hrest]; simp)
      · cases rest with
        | nil => exact hc (by rw [← List.nil_append "*/".toList, ← hrest]; exact .head _)
        | cons d rest =>
            rw [List.cons_append, List.cons_eq_cons] at hrest
            exact h ⟨rest, hrest.2.symm⟩
    rw [unclosed_eq h, unclosed_eq hwhole]

/-! ### What stands in front of a tag -/

theorem withoutSpace_isSuffix (cs : List Char) : withoutSpace cs <:+ cs := by
  unfold withoutSpace
  split
  · exact List.suffix_cons _ _
  · exact List.suffix_rfl

theorem withoutSpace_eq_nil_iff (cs : List Char) : withoutSpace cs = [] ↔ cs = [] ∨ cs = [' '] := by
  unfold withoutSpace
  split
  · simp
  · rename_i hspace
    exact ⟨Or.inl, fun h => h.resolve_right (hspace [])⟩

theorem withoutSpace_append {cs ds : List Char} (hds : ds.head? ≠ some ' ') :
    withoutSpace (cs ++ ds) = withoutSpace cs ++ ds := by
  have hplain {es : List Char} (h : es.head? ≠ some ' ') : withoutSpace es = es := by
    unfold withoutSpace
    split
    · exact absurd rfl h
    · rfl
  cases cs with
  | nil => exact hplain hds
  | cons c cs =>
      by_cases hc : c = ' '
      · rw [hc]
        rfl
      · rw [hplain (by simp [hc]), hplain (by simp [hc])]

/-- What may stand in front of a tag in its line: blanks, or an asterisk with blanks around it. -/
inductive Lead where
  | blanks (indent : Indent)
  | asterisk (indent gap : Indent)

namespace Lead

def text : Lead → List Char
  | blanks indent => indent.val
  | asterisk indent gap => indent.val ++ '*' :: gap.val

/-- No asterisk stands in front of the tag, or one that the tag touches or follows at one
space. -/
def IsClose : Lead → Prop
  | blanks _ => True
  | asterisk _ gap => gap.val = [] ∨ gap.val = [' ']

instance (lead : Lead) : Decidable lead.IsClose :=
  match lead with
  | blanks _ => inferInstanceAs (Decidable True)
  | asterisk _ gap => inferInstanceAs (Decidable (gap.val = [] ∨ gap.val = [' ']))

/-- The blanks in front of the tag that are left when the line is stripped. -/
def left : Lead → List Char
  | blanks _ => []
  | asterisk _ gap => withoutSpace gap.val

theorem left_eq_nil_iff (lead : Lead) : lead.left = [] ↔ lead.IsClose := by
  cases lead with
  | blanks indent => exact iff_of_true rfl trivial
  | asterisk indent gap => exact withoutSpace_eq_nil_iff gap.val

theorem left_isBlank (lead : Lead) : ∀ c ∈ lead.left, isBlank c = true := by
  cases lead with
  | blanks indent => exact List.forall_mem_nil _
  | asterisk indent gap => exact fun c hc => gap.isBlank c ((withoutSpace_isSuffix _).subset hc)

theorem isLine_text (lead : Lead) : IsLine lead.text := by
  cases lead with
  | blanks indent => exact indent.isLine
  | asterisk indent gap =>
      exact isLine_append.mpr ⟨indent.isLine, isLine_cons.mpr ⟨by decide, gap.isLine⟩⟩

theorem slash_not_mem_text (lead : Lead) : '/' ∉ lead.text := by
  have hindent (i : Indent) : '/' ∉ i.val := fun hmem => absurd (i.isBlank _ hmem) (by decide)
  cases lead with
  | blanks indent => exact hindent indent
  | asterisk indent gap => simp [text, hindent]

/-- A line with a tag begins with a character of what stands in front of it, or with the tag. -/
theorem head?_append_ne (lead : Lead) {c : Char} (hc : c ∉ lead.text) (hat : c ≠ '@')
    (cs : List Char) : (lead.text ++ '@' :: cs).head? ≠ some c := by
  intro h
  cases htext : lead.text with
  | nil =>
      rw [htext] at h
      exact hat (Option.some.inj h).symm
  | cons d ds =>
      rw [htext] at h hc
      exact hc (Option.some.inj h ▸ List.mem_cons_self)

end Lead

theorem lineText_of_ne {line cs : List Char} {c : Char} (h : trim line = c :: cs) (hc : c ≠ '*') :
    lineText line = trimEndWhere isBlank (c :: cs) := by
  unfold lineText
  rw [h]
  split
  · rename_i heq
    cases heq
    exact absurd rfl hc
  · rename_i heq
    cases heq
    exact absurd rfl hc
  · rfl

/-- A tag and what is left of the blanks in front of it are the text of the line. -/
theorem lineText_lead (lead : Lead) (l : List Char) :
    lineText (lead.text ++ '@' :: l) = lead.left ++ trimEndWhere isBlank ('@' :: l) := by
  have hat := trimEndWhere_cons (c := '@') (by decide) l
  have hne : trimEndWhere isBlank ('@' :: l) ≠ [] := by rw [hat]; exact List.cons_ne_nil _ _
  cases lead with
  | blanks indent =>
      have htrim : trim (indent.val ++ '@' :: l) = '@' :: trimEndWhere isBlank l := by
        rw [trim_blanks_append indent (by decide), hat]
      rw [Lead.text, lineText_of_ne htrim (by decide), ← hat, trimEndWhere_idempotent]
      rfl
  | asterisk indent gap =>
      have htrim : trim (indent.val ++ '*' :: (gap.val ++ '@' :: l))
          = '*' :: (gap.val ++ trimEndWhere isBlank ('@' :: l)) := by
        rw [trim_blanks_append indent (by decide), trimEndWhere_cons (by decide),
          trimEndWhere_append, if_neg hne]
      have hfirst : (trimEndWhere isBlank ('@' :: l)).head? ≠ some ' ' := by rw [hat]; simp
      rw [Lead.text, Lead.left, List.append_assoc, List.cons_append, lineText_of_asterisk htrim,
        withoutSpace_append hfirst, trimEndWhere_append, trimEndWhere_idempotent, if_neg hne]

/-! ### Comments with a tag -/

/-- What a documentation comment holds around the blanks in front of a tag: lines behind the
opening mark, the name of the tag, and everything behind the name. -/
structure TagLine where
  front : List Char
  ended : EndsLine front
  opened : front.head? ≠ some '/'
  name : List Char
  named : name ≠ []
  word : ∀ c ∈ name, isWordChar c = true
  rest : List Char
  behind : rest.head?.any isWordChar = false

/-- The comment, with something in front of its tag. -/
def TagLine.comment (t : TagLine) (lead : Lead) : List Char :=
  "/**".toList ++ (t.front ++ (lead.text ++ '@' :: (t.name ++ t.rest)))

/-- The texts of the lines of a comment. -/
def texts (comment : List Char) : List (List Char) :=
  (lines (body comment)).map lineText

/-- The names of the blocks of a comment. -/
def blockNames (comment : List Char) : List (List Char) :=
  (sections (texts comment)).2.map Block.name

namespace TagLine

variable (t : TagLine) (lead : Lead)

theorem isJavadoc_comment : isJavadoc (t.comment lead) = true := by
  have hslash : (t.front ++ (lead.text ++ '@' :: (t.name ++ t.rest))).head? ≠ some '/' := by
    cases hfront : t.front with
    | nil => exact lead.head?_append_ne lead.slash_not_mem_text (by decide) _
    | cons c cs =>
        have hopened := t.opened
        rw [hfront] at hopened
        exact hopened
  unfold isJavadoc comment
  rw [Bool.and_eq_true, Bool.not_eq_true', Bool.eq_false_iff, ne_eq, List.isPrefixOf_iff_prefix,
    List.isPrefixOf_iff_prefix]
  refine ⟨List.prefix_append _ _, ?_⟩
  rintro ⟨rest, hrest⟩
  have hcancel : '/' :: rest = t.front ++ (lead.text ++ '@' :: (t.name ++ t.rest)) :=
    @List.append_cancel_left _ "/**".toList _ _ hrest
  rw [← hcancel] at hslash
  exact hslash rfl

/-- The closing mark stands behind the name of the tag. -/
theorem body_comment :
    body (t.comment lead) = t.front ++ (lead.text ++ ('@' :: t.name ++ unclosed t.rest)) := by
  obtain ⟨name, c, hname⟩ := List.eq_nil_or_concat t.name |>.resolve_left t.named
  have hc : c ∉ "*/".toList := by
    intro hmem
    have hword := t.word c (by rw [hname]; simp)
    have hmarks : ("*/".toList.all fun c => !isWordChar c) = true := by decide
    have hmark := List.all_eq_true.mp hmarks c hmem
    rw [hword] at hmark
    cases hmark
  have hsplit (rest : List Char) : t.front ++ (lead.text ++ ('@' :: t.name ++ rest))
      = (t.front ++ (lead.text ++ '@' :: name)) ++ c :: rest := by
    rw [hname]
    simp
  rw [hsplit, ← unclosed_append hc, ← hsplit]
  rfl

theorem isWord_tag : IsWord ('@' :: t.name) where
  ne_nil := List.cons_ne_nil _ _
  unblank := List.forall_mem_cons.mpr ⟨by decide, fun c hc => isBlank_of_isWordChar (t.word c hc)⟩

/-- A line that begins with the tag opens its block, wherever the line ends. -/
theorem exists_blockStart? {l : List Char} (hl : l <+: t.rest) :
    ∃ text, blockStart? (trimEndWhere isBlank ('@' :: t.name ++ l)) = some (t.name, text) := by
  have htrim : trimEndWhere isBlank ('@' :: t.name ++ l)
      = '@' :: (t.name ++ trimEndWhere isBlank l) := by
    rw [trimEndWhere_append]
    split
    · rename_i hnone
      rw [hnone, List.append_nil]
      exact trimEndWhere_of_getLast? t.isWord_tag.getLast?_isBlank
    · rfl
  have hbehind : (trimEndWhere isBlank l).head?.any isWordChar = false := by
    obtain ⟨more, hmore⟩ := (trimEndWhere_isPrefix (p := isBlank) l).trans hl
    cases hfirst : trimEndWhere isBlank l with
    | nil => rfl
    | cons c cs =>
        have hrest := t.behind
        rw [← hmore, hfirst] at hrest
        exact hrest
  rw [htrim]
  exact ⟨_, blockStart?_tagged t.named t.word hbehind⟩

/-- **The lines around a tag do not depend on what stands in front of it.** -/
theorem texts_comment : ∃ before line behind text, blockStart? line = some (t.name, text) ∧
    ∀ lead, texts (t.comment lead) = before ++ (lead.left ++ line) :: behind := by
  obtain ⟨l, ls, hl, hlines⟩ := exists_lines_append (unclosed t.rest)
  obtain ⟨text, htext⟩ := t.exists_blockStart? (hl.trans (unclosed_isPrefix t.rest))
  refine ⟨(lines t.front).map lineText, _, ls.map lineText, text, htext, fun lead => ?_⟩
  have hfeed : (lead.text ++ ('@' :: t.name ++ unclosed t.rest)).head? ≠ some '\n' := by
    refine lead.head?_append_ne (fun hmem => ?_) (by decide) _
    exact absurd (lead.isLine_text _ hmem) (by decide)
  have hline : IsLine (lead.text ++ '@' :: t.name) :=
    isLine_append.mpr ⟨lead.isLine_text, t.isWord_tag.isLine⟩
  have htag := hlines _ hline (by simp)
  rw [List.append_assoc] at htag
  rw [texts, body_comment, lines_append t.ended hfeed, htag, List.map_append, List.map_cons,
    List.append_assoc, List.cons_append, lineText_lead]

theorem parse_congr {comment other : List Char} (hjavadoc : isJavadoc comment = isJavadoc other)
    (htexts : texts comment = texts other) : parse comment = parse other := by
  unfold texts at htexts
  unfold parse
  rw [hjavadoc, htexts]

/-- The name of the block that a line opens. -/
def blockName? (l : List Char) : Option (List Char) :=
  (blockStart? l).map Prod.fst

theorem map_name_sections (ls : List (List Char)) :
    (sections ls).2.map Block.name = ls.filterMap blockName? := by
  induction ls with
  | nil => rfl
  | cons l ls ih =>
      rw [List.filterMap_cons, ← ih, sections, blockName?]
      cases hstart : blockStart? l with
      | none => rfl
      | some start => rfl

/-- A line that begins with a blank opens no block. -/
theorem blockStart?_of_isBlank {c : Char} (hc : isBlank c = true) (cs : List Char) :
    blockStart? (c :: cs) = none := by
  unfold blockStart?
  split
  · rename_i heq
    cases heq
    cases hc
  · rfl

/--
**A tag counts where it is close to its asterisk.**  Blanks in front of the asterisk, or in front
of a tag without one, do not matter, and neither does one space behind the asterisk.  With any
other blanks behind the asterisk the tag opens no block, and the blocks of all other lines are the
same.
-/
theorem tag_counts_iff_isClose :
    (∀ lead other : Lead, lead.IsClose → other.IsClose →
        parse (t.comment lead) = parse (t.comment other))
      ∧ ∃ before behind, ∀ lead : Lead, isJavadoc (t.comment lead) = true
        ∧ blockNames (t.comment lead)
          = before ++ ((if lead.IsClose then [t.name] else []) ++ behind) := by
  obtain ⟨before, line, behind, text, hline, htexts⟩ := t.texts_comment
  constructor
  · intro lead other hlead hother
    refine parse_congr ((t.isJavadoc_comment lead).trans (t.isJavadoc_comment other).symm) ?_
    rw [htexts, htexts, lead.left_eq_nil_iff.mpr hlead, other.left_eq_nil_iff.mpr hother]
  · refine ⟨before.filterMap blockName?, behind.filterMap blockName?, fun lead =>
      ⟨t.isJavadoc_comment lead, ?_⟩⟩
    have htag : blockName? (lead.left ++ line)
        = if lead.IsClose then some t.name else none := by
      unfold blockName?
      by_cases hclose : lead.IsClose
      · rw [lead.left_eq_nil_iff.mpr hclose, if_pos hclose, List.nil_append, hline]
        rfl
      · obtain ⟨c, cs, hleft⟩ :=
          List.exists_cons_of_ne_nil (mt lead.left_eq_nil_iff.mp hclose)
        have hblank : isBlank c = true := lead.left_isBlank c (by rw [hleft]; simp)
        rw [hleft, if_neg hclose, List.cons_append, blockStart?_of_isBlank hblank]
        rfl
    rw [blockNames, htexts, map_name_sections, List.filterMap_append, List.filterMap_cons, htag]
    by_cases hclose : lead.IsClose
    · rw [if_pos hclose, if_pos hclose]
      rfl
    · rw [if_neg hclose, if_neg hclose]
      rfl

/-- Spaces behind an asterisk. -/
def spaces (n : Nat) : Indent :=
  ⟨List.replicate n ' ', by simp [isBlank, isLineEnd]⟩

/-- Any blanks between the asterisk and the tag can be replaced by any number of spaces. -/
def GapFree (t : TagLine) : Prop :=
  ∀ (indent gap : Indent) (n : Nat),
    parse (t.comment (.asterisk indent (spaces n))) = parse (t.comment (.asterisk indent gap))

/-- What is returned, said below a description. -/
def dish : TagLine where
  front := "\n * Finds a dish.\n".toList
  ended := by unfold EndsLine; decide
  opened := by decide
  name := "return".toList
  named := by decide
  word := List.all_eq_true.mp (by decide)
  rest := " the dish\n */".toList
  behind := by decide

theorem tag_counts_dish :
    (Lead.blanks (spaces 3)).IsClose ∧ (Lead.asterisk (spaces 1) (spaces 1)).IsClose
      ∧ ¬(Lead.asterisk (spaces 1) (spaces 3)).IsClose
      ∧ parse (dish.comment (.blanks (spaces 3)))
        = parse (dish.comment (.asterisk (spaces 1) (spaces 1))) := by
  have hbare : (Lead.blanks (spaces 3)).IsClose := trivial
  have hclose : (Lead.asterisk (spaces 1) (spaces 1)).IsClose := Or.inr rfl
  exact ⟨hbare, hclose, by decide, (tag_counts_iff_isClose dish).1 _ _ hbare hclose⟩

theorem not_gapFree_dish : ¬dish.GapFree := by
  intro h
  have hreturns := congrArg Documentation.returns (h (spaces 1) (spaces 1) 3)
  revert hreturns
  decide +kernel

end TagLine

end Javadoc

end ServiceAtlas
