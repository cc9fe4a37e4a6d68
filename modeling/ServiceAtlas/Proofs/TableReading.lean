/-
Rows of tables are taken apart at their bars.

A row is its cells, each with a space on either side, with a bar in front of the first cell and
behind every cell.  A reader cuts it at the bars that no backslash stands directly in front of,
`barParts`, and takes what is held by a cell from between its spaces.  Where a cell has such a bar
in it the reader finds more cells than were written; nothing else can lead it astray, for the
spaces keep a backslash at the end of a cell away from the bar behind the cell
(`cellsOf?_rowChars`).  Escaped texts have no such bar, whatever backslashes they have
(`length_barParts_escapeBars`), and are read back as they were (`unescapeBars_escapeBars`).
-/
import ServiceAtlas.Proofs.MapReading
import ServiceAtlas.Proofs.Spacing

namespace ServiceAtlas.Report

open ServiceAtlas.Literal (onto)
open ServiceAtlas.Text

/-! ### Cutting at bars -/

/-- The parts of a text between its bars.  A bar directly behind a backslash does not count;
`escaped` says whether a backslash stands in front of the text. -/
def barParts (escaped : Bool) : List Char → List (List Char)
  | [] => [[]]
  | c :: cs =>
    if c = '|' ∧ escaped = false then [] :: barParts false cs
    else onto c (barParts (c == '\\') cs)

theorem length_onto {c : Char} {ps : List (List Char)} (h : ps ≠ []) :
    (onto c ps).length = ps.length := by
  cases ps with
  | nil => exact absurd rfl h
  | cons p ps => rfl

theorem barParts_ne_nil (escaped : Bool) (cs : List Char) : barParts escaped cs ≠ [] := by
  cases cs with
  | nil => exact List.cons_ne_nil _ _
  | cons c cs =>
      rw [barParts]
      split
      · exact List.cons_ne_nil _ _
      · exact onto_ne_nil _ _

theorem barParts_bar (cs : List Char) : barParts false ('|' :: cs) = [] :: barParts false cs :=
  if_pos ⟨rfl, rfl⟩

theorem length_barParts_cons {c : Char} {escaped : Bool} (h : c = '|' → escaped = true)
    (cs : List Char) :
    (barParts escaped (c :: cs)).length = (barParts (c == '\\') cs).length := by
  have hkept : ¬(c = '|' ∧ escaped = false) := by
    rintro ⟨hc, hescaped⟩
    rw [h hc] at hescaped
    cases hescaped
  rw [barParts, if_neg hkept, length_onto (barParts_ne_nil _ _)]

/-- A text is its parts with bars between them. -/
theorem join_barParts (escaped : Bool) (cs : List Char) :
    join ['|'] (barParts escaped cs) = cs := by
  induction cs generalizing escaped with
  | nil => rfl
  | cons c cs ih =>
      rw [barParts]
      split
      · rename_i hbar
        obtain ⟨p, ps, hparts⟩ := List.exists_cons_of_ne_nil (barParts_ne_nil false cs)
        have hrest := ih false
        rw [hparts] at hrest ⊢
        rw [join, hrest, hbar.1]
        rfl
      · obtain ⟨p, ps, hparts⟩ := List.exists_cons_of_ne_nil (barParts_ne_nil (c == '\\') cs)
        have hrest := ih (c == '\\')
        rw [hparts] at hrest ⊢
        rw [← hrest]
        cases ps <;> rfl

theorem barParts_of_length {escaped : Bool} {cs : List Char}
    (h : (barParts escaped cs).length = 1) : barParts escaped cs = [cs] := by
  obtain ⟨p, hp⟩ := List.length_eq_one_iff.mp h
  have hjoin := join_barParts escaped cs
  rw [hp] at hjoin
  rw [hp, show p = cs from hjoin]

/-- Every bar in the text stands directly behind a backslash. -/
def BarsEscaped (cs : List Char) : Prop :=
  ∀ before behind, cs = before ++ '|' :: behind → before.getLast? = some '\\'

theorem length_barParts_eq_one_iff {escaped : Bool} {cs : List Char} :
    (barParts escaped cs).length = 1 ↔
      ∀ before behind, cs = before ++ '|' :: behind →
        (before.getLast?.map (· == '\\')).getD escaped = true := by
  induction cs generalizing escaped with
  | nil => simp [barParts]
  | cons c cs ih =>
      by_cases hbar : c = '|' ∧ escaped = false
      · rw [barParts, if_pos hbar]
        have hrest : (barParts false cs).length ≠ 0 := by
          simpa using barParts_ne_nil false cs
        constructor
        · intro h
          rw [List.length_cons] at h
          exact absurd (Nat.succ.inj h) hrest
        · intro h
          have hfirst := h [] cs (by rw [hbar.1]; rfl)
          rw [hbar.2] at hfirst
          cases hfirst
      · have hkept : c = '|' → escaped = true := by
          intro hc
          by_contra hescaped
          exact hbar ⟨hc, by simpa using hescaped⟩
        rw [length_barParts_cons hkept, ih]
        constructor
        · intro h before behind heq
          cases before with
          | nil => exact hkept (List.cons.inj heq).1
          | cons d before =>
              obtain ⟨rfl, htail⟩ := List.cons.inj heq
              have hlast := h before behind htail
              cases before <;> simpa [List.getLast?_cons] using hlast
        · intro h before behind heq
          have hlast := h (c :: before) behind (by rw [heq]; rfl)
          cases before <;> simpa [List.getLast?_cons] using hlast

theorem length_barParts_false_iff {cs : List Char} :
    (barParts false cs).length = 1 ↔ BarsEscaped cs := by
  rw [length_barParts_eq_one_iff]
  refine forall₃_congr fun before behind _ => ?_
  cases before.getLast? <;> simp

/-- Behind a text without bars the parts end as they are. -/
theorem length_barParts_append {ds : List Char} (hds : '|' ∉ ds) (escaped : Bool)
    (cs : List Char) : (barParts escaped (cs ++ ds)).length = (barParts escaped cs).length := by
  induction cs generalizing escaped with
  | nil =>
      rw [List.nil_append]
      refine length_barParts_eq_one_iff.mpr fun before behind heq => ?_
      exact absurd (heq ▸ List.mem_append_right _ List.mem_cons_self) hds
  | cons c cs ih =>
      rw [List.cons_append, barParts, barParts]
      split
      · rw [List.length_cons, List.length_cons, ih]
      · rw [length_onto (barParts_ne_nil _ _), length_onto (barParts_ne_nil _ _), ih]

/-! ### Cells of a row -/

/-- A cell with a space on either side. -/
def padded (cell : List Char) : List Char :=
  ' ' :: cell ++ [' ']

/-- A row of cells. -/
def rowChars (cells : List (List Char)) : List Char :=
  '|' :: cells.flatMap fun cell => padded cell ++ ['|']

/-- The cells of a row between its outer bars, if it has outer bars. -/
def cellsOf? (row : List Char) : Option (List (List Char)) :=
  match barParts false row with
  | [] :: rest => if rest.getLast? = some [] then some rest.dropLast else none
  | _ => none

/-- The space at the end of a cell keeps the bar behind it from being escaped. -/
theorem barParts_space_bar (escaped : Bool) (cs rest : List Char) :
    barParts escaped (cs ++ ' ' :: '|' :: rest)
      = barParts escaped (cs ++ [' ']) ++ barParts false rest := by
  induction cs generalizing escaped with
  | nil => simp [barParts, onto]
  | cons c cs ih =>
      rw [List.cons_append, List.cons_append, barParts, barParts]
      split
      · rw [ih]
        rfl
      · rw [ih, onto_append c (barParts_ne_nil _ _)]

/-- **A row is read as the parts of its cells.** -/
theorem cellsOf?_rowChars (cells : List (List Char)) :
    cellsOf? (rowChars cells) = some (cells.flatMap fun cell => barParts false (padded cell)) := by
  have hparts : barParts false (cells.flatMap fun cell => padded cell ++ ['|'])
      = (cells.flatMap fun cell => barParts false (padded cell)) ++ [[]] := by
    induction cells with
    | nil => rfl
    | cons cell cells ih =>
        have hcell : padded cell ++ ['|'] ++ (cells.flatMap fun cell => padded cell ++ ['|'])
            = (' ' :: cell) ++ ' ' :: '|' :: cells.flatMap fun cell => padded cell ++ ['|'] := by
          simp [padded]
        rw [List.flatMap_cons, List.flatMap_cons, hcell, barParts_space_bar, ih,
          List.append_assoc]
        rfl
  rw [cellsOf?, rowChars, barParts_bar, hparts]
  show (if _ then some _ else none) = _
  rw [if_pos List.getLast?_concat, List.dropLast_concat]

theorem length_barParts_padded (cell : List Char) :
    (barParts false (padded cell)).length = (barParts false cell).length := by
  have hbar : ' ' = '|' → false = true := by decide
  show (barParts false (' ' :: (cell ++ [' ']))).length = _
  rw [length_barParts_cons hbar, length_barParts_append (by decide)]
  rfl

/-- Cells without bars of their own are read one for one. -/
theorem cellsOf?_of_barsEscaped {cells : List (List Char)} (h : ∀ cell ∈ cells, BarsEscaped cell) :
    cellsOf? (rowChars cells) = some (cells.map padded) := by
  rw [cellsOf?_rowChars, List.map_eq_flatMap]
  refine congrArg some (List.flatMap_congr fun cell hcell => barParts_of_length ?_)
  rw [length_barParts_padded]
  exact length_barParts_false_iff.mpr (h cell hcell)

/-! ### Escapes -/

/-- A text with a backslash in front of every bar. -/
def escapeBars (cs : List Char) : List Char :=
  replaceChar '|' ['\\', '|'] cs

/-- A text with every backslash that stands in front of a bar taken away. -/
def unescapeBars : List Char → List Char
  | '\\' :: '|' :: cs => '|' :: unescapeBars cs
  | c :: cs => c :: unescapeBars cs
  | [] => []

theorem escapeBars_bar (cs : List Char) : escapeBars ('|' :: cs) = '\\' :: '|' :: escapeBars cs :=
  rfl

theorem escapeBars_cons {c : Char} (hc : c ≠ '|') (cs : List Char) :
    escapeBars (c :: cs) = c :: escapeBars cs := by
  show (if c = '|' then _ else _) ++ escapeBars cs = _
  rw [if_neg hc]
  rfl

theorem barsEscaped_escapeBars (cs : List Char) : BarsEscaped (escapeBars cs) := by
  have hone (escaped : Bool) : (barParts escaped (escapeBars cs)).length = 1 := by
    induction cs generalizing escaped with
    | nil => rfl
    | cons c cs ih =>
        by_cases hc : c = '|'
        · have hslash : '\\' = '|' → escaped = true := fun h => absurd h (by decide)
          have hbar : '|' = '|' → ('\\' == '\\') = true := fun _ => rfl
          rw [hc, escapeBars_bar, length_barParts_cons hslash, length_barParts_cons hbar, ih]
        · rw [escapeBars_cons hc, length_barParts_cons (fun h => absurd h hc), ih]
  exact length_barParts_false_iff.mp (hone false)

theorem unescapeBars_cons {c : Char} {cs : List Char} (h : cs.head? ≠ some '|') :
    unescapeBars (c :: cs) = c :: unescapeBars cs := by
  rw [unescapeBars]
  rintro rest - rfl
  exact h rfl

theorem head?_escapeBars (cs : List Char) : (escapeBars cs).head? ≠ some '|' := by
  cases cs with
  | nil => nofun
  | cons c cs =>
      by_cases hc : c = '|'
      · rw [hc, escapeBars_bar]
        exact fun h => absurd (Option.some.inj h) (by decide)
      · rw [escapeBars_cons hc]
        exact fun h => hc (Option.some.inj h)

theorem unescapeBars_escapeBars (cs : List Char) : unescapeBars (escapeBars cs) = cs := by
  induction cs with
  | nil => rfl
  | cons c cs ih =>
      by_cases hc : c = '|'
      · rw [hc, escapeBars_bar, unescapeBars, ih]
      · rw [escapeBars_cons hc, unescapeBars_cons (head?_escapeBars cs), ih]

/-! ### Texts of cells -/

/-- What a cell holds between the spaces on either side, escapes being undone. -/
def held? (cell : List Char) : Option (List Char) :=
  (Literal.between? ' ' ' ' cell).map unescapeBars

/-- A text as a table shows it: with single spaces, and a dash in place of the empty text. -/
def shown (text : String) : String :=
  orDash (squeezed text)

theorem toList_shown (text : String) :
    (shown text).toList
      = if squeeze text.toList = [] then ['-'] else squeeze text.toList := by
  have hsqueezed : (squeezed text).toList = squeeze text.toList := String.toList_ofList
  have hempty : (squeezed text).isEmpty = true ↔ squeeze text.toList = [] := by
    rw [String.isEmpty_iff, ← String.toList_eq_nil_iff, hsqueezed]
  rw [shown, orDash]
  by_cases hnil : squeeze text.toList = []
  · rw [if_pos (hempty.mpr hnil), if_pos hnil]
    rfl
  · rw [if_neg (mt hempty.mp hnil), if_neg hnil, hsqueezed]

theorem cell_eq (text : String) : (cell text).toList = escapeBars (shown text).toList := by
  rw [cell, String.toList_ofList, cellChars, toList_shown]
  cases squeeze text.toList with
  | nil => rfl
  | cons c cs =>
      have hcell : ∃ d ds, escapeBars (c :: cs) = d :: ds := by
        by_cases hc : c = '|'
        · exact ⟨_, _, by rw [hc, escapeBars_bar]⟩
        · exact ⟨_, _, escapeBars_cons hc cs⟩
      obtain ⟨d, ds, hcell⟩ := hcell
      rw [if_neg (List.cons_ne_nil c cs), hcell]
      unfold escapeBars at hcell
      rw [hcell]

/-- **What is escaped and padded is held.** -/
theorem held?_escapeBars (cs : List Char) : held? (padded (escapeBars cs)) = some cs := by
  rw [held?, padded, Literal.between?_closed, Option.map_some, unescapeBars_escapeBars]

theorem barsEscaped_cell (text : String) : BarsEscaped (cell text).toList :=
  cell_eq text ▸ barsEscaped_escapeBars _

/-- Single spaces are the only blanks in what is shown. -/
theorem eq_space_of_mem_shown {c : Char} {text : String} (hc : c ∈ (shown text).toList)
    (hblank : isBlank c = true) : c = ' ' := by
  rw [toList_shown] at hc
  split at hc
  · obtain rfl := List.mem_singleton.mp hc
    exact absurd hblank (by decide)
  · exact eq_space_of_mem_squeeze hc hblank

theorem mem_escapeBars {c : Char} {cs : List Char} (hc : c ∈ escapeBars cs) : c = '\\' ∨ c ∈ cs := by
  rw [escapeBars, replaceChar, List.mem_flatMap] at hc
  obtain ⟨d, hd, hc⟩ := hc
  by_cases hbar : d = '|'
  · rw [if_pos hbar, ← hbar, List.mem_pair] at hc
    rcases hc with hslash | hsame
    · exact Or.inl hslash
    · exact Or.inr (hsame ▸ hd)
  · rw [if_neg hbar, List.mem_singleton] at hc
    exact Or.inr (hc ▸ hd)

theorem eq_space_of_mem_cell {c : Char} {text : String} (hc : c ∈ (cell text).toList)
    (hblank : isBlank c = true) : c = ' ' := by
  rw [cell_eq] at hc
  rcases mem_escapeBars hc with rfl | hshown
  · exact absurd hblank (by decide)
  · exact eq_space_of_mem_shown hshown hblank

end ServiceAtlas.Report
