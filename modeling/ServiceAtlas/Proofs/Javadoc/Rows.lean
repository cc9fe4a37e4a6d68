/-
Rows of a documentation comment.

A comment is laid out in rows: a row for its opening mark, a row for each text with an asterisk
and a space in front of it, and the closing mark, with blanks before every asterisk.  The same line
end stands behind each row but the last.  Whatever the blanks and the line ends are, the lines of
the comment hold the texts again (`texts_comment`): an empty text for the opening mark, the texts of
the rows without the blanks at their ends, and one more empty text if the closing mark is indented.

The induction is on the texts of the rows, with the number of the next row generalised, since each
row has blanks of its own.
-/
import ServiceAtlas.Javadoc
import ServiceAtlas.Proofs.Spacing
import ServiceAtlas.Proofs.Trimming

namespace ServiceAtlas

namespace Text

/-! ### Lines -/

theorem lines_of_isLineEnd {c : Char} (hc : isLineEnd c = true) {cs : List Char}
    (hpair : c = '\r' → cs.head? ≠ some '\n') : lines (c :: cs) = [] :: lines cs := by
  rw [lines.eq_def]
  split
  case h_1 h => cases h
  case h_2 h => cases h; exact absurd rfl (hpair rfl)
  case h_3 h => cases h; exact if_pos hc

theorem lines_lone {c : Char} (hc : isLineEnd c = false) : lines [c] = [[c]] := by
  rw [lines.eq_def]
  split
  case h_1 h => cases h
  case h_2 h => cases h
  case h_3 h => cases h; exact if_neg (by simp [hc])

theorem lines_inside {c : Char} (hc : isLineEnd c = false) {cs : List Char} (hcs : lines cs ≠ []) :
    lines (c :: cs) = Literal.onto c (lines cs) := by
  rw [lines.eq_def]
  split
  case h_1 h => cases h
  case h_2 h => cases h; cases hc
  case h_3 h =>
    cases h
    obtain ⟨l, ls, hl⟩ := List.exists_cons_of_ne_nil hcs
    cases cs with
    | nil => cases hl
    | cons d cs =>
        rw [if_neg (by simp [hc]), hl]
        rfl

theorem lines_of_isLine {l : List Char} (hl : IsLine l) : lines l = if l = [] then [] else [l] := by
  induction l with
  | nil => rfl
  | cons c l ih =>
      obtain ⟨hc, hl⟩ := isLine_cons.mp hl
      by_cases hnil : l = []
      · rw [hnil]
        exact lines_lone hc
      · have hlines : lines l = [l] := (ih hl).trans (if_neg hnil)
        rw [lines_inside hc (by simp [hlines]), hlines]
        rfl

end Text

namespace Javadoc

open ServiceAtlas.Text

/-! ### What is laid out -/

/-- What ends a line: a line feed, with a carriage return before it or without one. -/
inductive LineEnd where
  | feed
  | returnFeed

def LineEnd.text : LineEnd → List Char
  | feed => ['\n']
  | returnFeed => ['\r', '\n']

/-- Blanks that do not end a line. -/
abbrev Indent := {cs : List Char // cs.all (fun c => isBlank c && !isLineEnd c) = true}

/-- The rows of texts from a number on, and the blanks in the row behind them. -/
def rowsFrom (eol : LineEnd) (indent : Nat → Indent) : Nat → List (List Char) → List Char
  | n, [] => (indent n).val
  | n, l :: ls => ((indent n).val ++ '*' :: ' ' :: l) ++ (eol.text ++ rowsFrom eol indent (n + 1) ls)

/-- A documentation comment with the texts in its rows. -/
def comment (eol : LineEnd) (indent : Nat → Indent) (ls : List (List Char)) : List Char :=
  "/**".toList ++ (eol.text ++ rowsFrom eol indent 0 ls) ++ "*/".toList

/-! ### Lines of a comment -/

theorem lines_row {l : List Char} (hl : IsLine l) (eol : LineEnd) (rest : List Char) :
    lines (l ++ (eol.text ++ rest)) = l :: lines rest := by
  induction l with
  | nil =>
      cases eol with
      | feed => exact lines_of_isLineEnd (by decide) (fun h => absurd h (by decide))
      | returnFeed => exact lines.eq_2 rest
  | cons c l ih =>
      obtain ⟨hc, hl⟩ := isLine_cons.mp hl
      have hrest := ih hl
      rw [List.cons_append, lines_inside hc (by simp [hrest]), hrest]
      rfl

theorem Indent.isBlank (i : Indent) : ∀ c ∈ i.val, isBlank c = true := by
  intro c hc
  have hboth := List.all_eq_true.mp i.property c hc
  rw [Bool.and_eq_true] at hboth
  exact hboth.1

theorem Indent.isLine (i : Indent) : IsLine i.val := by
  intro c hc
  have hboth := List.all_eq_true.mp i.property c hc
  rw [Bool.and_eq_true, Bool.not_eq_true'] at hboth
  exact hboth.2

theorem isJavadoc_comment (eol : LineEnd) (indent : Nat → Indent) (ls : List (List Char)) :
    isJavadoc (comment eol indent ls) = true := by
  cases eol <;> rfl

/-- The text without the closing mark at its end. -/
def unclosed (cs : List Char) : List Char :=
  if "*/".toList.isSuffixOf cs then cs.take (cs.length - 2) else cs

theorem unclosed_closed (cs : List Char) : unclosed (cs ++ "*/".toList) = cs := by
  have hclosed : "*/".toList.isSuffixOf (cs ++ "*/".toList) = true :=
    List.isSuffixOf_iff_suffix.mpr (List.suffix_append _ _)
  unfold unclosed
  rw [if_pos hclosed, List.length_append]
  exact List.take_left

theorem body_comment (eol : LineEnd) (indent : Nat → Indent) (ls : List (List Char)) :
    body (comment eol indent ls) = eol.text ++ rowsFrom eol indent 0 ls := by
  have hdrop : (comment eol indent ls).drop 3
      = (eol.text ++ rowsFrom eol indent 0 ls) ++ "*/".toList := by
    unfold comment
    rw [List.append_assoc]
    rfl
  show unclosed ((comment eol indent ls).drop 3) = _
  rw [hdrop, unclosed_closed]

/-! ### Texts of the lines -/

/-- The text without one space at its beginning. -/
def withoutSpace : List Char → List Char
  | ' ' :: rest => rest
  | cs => cs

theorem trim_blanks_append (indent : Indent) {c : Char} (hc : isBlank c = false) (cs : List Char) :
    trim (indent.val ++ c :: cs) = trimEndWhere isBlank (c :: cs) := by
  unfold trim
  rw [trimWhere_append_left indent.isBlank, trimWhere, trimStartWhere,
    List.dropWhile_cons_of_neg (by simp [hc])]

theorem trimEndWhere_cons {c : Char} (hc : isBlank c = false) (cs : List Char) :
    trimEndWhere isBlank (c :: cs) = c :: trimEndWhere isBlank cs := by
  have hsplit := trimEndWhere_append (p := isBlank) [c] cs
  rw [List.singleton_append] at hsplit
  rw [hsplit]
  split
  · rename_i hnone
    rw [hnone]
    exact trimEndWhere_of_getLast? (by simpa using hc)
  · rfl

theorem lineText_of_asterisk {line cs : List Char} (h : trim line = '*' :: cs) :
    lineText line = trimEndWhere isBlank (withoutSpace cs) := by
  unfold lineText withoutSpace
  rw [h]
  split
  · rename_i heq
    cases heq
    rfl
  · rename_i hspace heq
    cases heq
    split
    · exact absurd rfl (hspace _)
    · rfl
  · rename_i hother
    exact absurd rfl (hother cs)

/-- An asterisk, the blanks in front of it and the space behind it are taken off a line. -/
theorem lineText_row (i : Indent) (l : List Char) :
    lineText (i.val ++ '*' :: ' ' :: l) = trimEndWhere isBlank l := by
  have htrim : trim (i.val ++ '*' :: ' ' :: l) = '*' :: trimEndWhere isBlank (' ' :: l) := by
    rw [trim_blanks_append i (by decide), trimEndWhere_cons (by decide)]
  have hspace : trimEndWhere isBlank (' ' :: l)
      = if trimEndWhere isBlank l = [] then [] else ' ' :: trimEndWhere isBlank l :=
    trimEndWhere_append [' '] l
  rw [lineText_of_asterisk htrim, hspace]
  split
  · rename_i hnone
    rw [hnone]
    rfl
  · exact trimEndWhere_idempotent l

theorem lineText_blanks {l : List Char} (hl : ∀ c ∈ l, isBlank c = true) : lineText l = [] := by
  have htrim := trimWhere_append_left hl []
  rw [List.append_nil] at htrim
  unfold lineText trim
  rw [htrim]
  rfl

/-- What may be left of the row of the closing mark: an empty text, or nothing at all. -/
def IsFoot (ls : List (List Char)) : Prop :=
  ls = [] ∨ ls = [[]]

theorem texts_rowsFrom (eol : LineEnd) (indent : Nat → Indent) {ls : List (List Char)}
    (hls : ∀ l ∈ ls, IsLine l) :
    ∀ n, ∃ foot, IsFoot foot ∧
      (lines (rowsFrom eol indent n ls)).map lineText
        = ls.map (trimEndWhere isBlank) ++ foot := by
  induction ls with
  | nil =>
      intro n
      have hlines := lines_of_isLine (indent n).isLine
      unfold rowsFrom
      rw [hlines]
      split
      · exact ⟨[], Or.inl rfl, rfl⟩
      · refine ⟨[[]], Or.inr rfl, ?_⟩
        simp [lineText_blanks (indent n).isBlank]
  | cons l ls ih =>
      intro n
      obtain ⟨hl, hls⟩ := List.forall_mem_cons.mp hls
      obtain ⟨foot, hfoot, htexts⟩ := ih hls (n + 1)
      have hrow : IsLine ((indent n).val ++ '*' :: ' ' :: l) := by
        rw [isLine_append, isLine_cons, isLine_cons]
        exact ⟨(indent n).isLine, by decide, by decide, hl⟩
      refine ⟨foot, hfoot, ?_⟩
      unfold rowsFrom
      rw [lines_row hrow, List.map_cons, htexts, lineText_row]
      rfl

/-- **The lines of a comment hold the texts of its rows.** -/
theorem texts_comment (eol : LineEnd) (indent : Nat → Indent) {ls : List (List Char)}
    (hls : ∀ l ∈ ls, IsLine l) :
    ∃ foot, IsFoot foot ∧
      (lines (body (comment eol indent ls))).map lineText
        = [] :: (ls.map (trimEndWhere isBlank) ++ foot) := by
  obtain ⟨foot, hfoot, htexts⟩ := texts_rowsFrom eol indent hls 0
  refine ⟨foot, hfoot, ?_⟩
  have hempty : IsLine [] := List.forall_mem_nil _
  have hopening := lines_row hempty eol (rowsFrom eol indent 0 ls)
  rw [List.nil_append] at hopening
  rw [body_comment, hopening, List.map_cons, htexts]
  rfl

end Javadoc

end ServiceAtlas
