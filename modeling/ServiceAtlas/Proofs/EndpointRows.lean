/-
Which endpoint tables are tables.

Every endpoint is one line of the endpoint table, a row of five cells, and the rows stand in the
order of their groups and paths.  Four of the cells escape what they show.  The path stands
between its quotes as it is, so a path with a line break in it is two lines, and one with a bar in
it that no backslash stands in front of is two cells.  Nothing else can go wrong:
`isTable_iff_fitsRow` says that the text is a table exactly if every path fits into a row, and
`order_of_rows` what the rows are then.
-/
import ServiceAtlas.Proofs.Interleaving
import ServiceAtlas.Proofs.TableReading

namespace ServiceAtlas.Report

/-! ### Stable order -/

section Order

variable {α β κ : Type} [DecidableEq κ] {key : α → κ} {le : α → α → Bool}

omit [DecidableEq κ] in
theorem SortsBy.comap (f : β → α) (h : SortsBy key le) :
    SortsBy (fun b => key (f b)) fun a b => le (f a) (f b) where
  trans a b c := h.trans (f a) (f b) (f c)
  total a b := h.total (f a) (f b)
  tie a b := h.tie (f a) (f b)

/-- Sorting moves items past each other only if their keys differ. -/
theorem keepsOrder_mergeSort (h : SortsBy key le) (xs : List α) :
    KeepsOrder key xs (xs.mergeSort le) :=
  ⟨(List.mergeSort_perm xs le).symm, filter_mergeSort h xs⟩

end Order

/-! ### Reading the table -/

/-- The lines of a table with a header and a rule, cut into cells. -/
def IsTable (header rule text : String) (rows : List (List (List Char))) : Prop :=
  ∃ lines, linesOf text = header.toList :: rule.toList :: (lines ++ [[]]) ∧
    List.Forall₂ (fun line cells => cellsOf? line = some cells) lines rows

/-- The text is an endpoint table with these rows. -/
abbrev IsEndpointTable : String → List (List (List Char)) → Prop :=
  IsTable "| Controller | Method | Path | Params | Description |"
    "|------------|--------|------|--------|-------------|"

/-- A path that can stand in a row as it is. -/
structure FitsRow (path : String) : Prop where
  lineBreak : '\n' ∉ path.toList
  bars : BarsEscaped path.toList

instance : DecidablePred FitsRow := fun path =>
  decidable_of_iff ('\n' ∉ path.toList ∧ (barParts false path.toList).length = 1)
    ⟨fun h => ⟨h.1, length_barParts_false_iff.mp h.2⟩,
      fun h => ⟨h.lineBreak, length_barParts_false_iff.mpr h.bars⟩⟩

/-- The path as a cell shows it. -/
def quotedPath (path : String) : String :=
  "`" ++ orDash path ++ "`"

/-- The cells of a row. -/
def Row.cells (r : Row) : List (List Char) :=
  [(cell r.group).toList, (cell r.verb).toList, (quotedPath r.path).toList,
    (cell r.parameters).toList, (cell r.summary).toList]

theorem Row.toList_line (r : Row) : r.line.toList = rowChars r.cells := by
  simp [Row.line, rowChars, Row.cells, quotedPath, padded]

theorem toList_quotedPath (path : String) :
    (quotedPath path).toList = '`' :: (orDash path).toList ++ ['`'] := by
  simp [quotedPath]

theorem orDash_cases (text : String) : orDash text = text ∨ text = "" ∧ orDash text = "-" := by
  unfold orDash
  split
  · rename_i hempty
    exact Or.inr ⟨String.isEmpty_iff.mp hempty, rfl⟩
  · exact Or.inl rfl

theorem length_barParts_quotedPath (path : String) :
    (barParts false (quotedPath path).toList).length = (barParts false path.toList).length := by
  have hquote : '`' = '|' → false = true := by decide
  rw [toList_quotedPath, List.cons_append, length_barParts_cons hquote,
    length_barParts_append (by decide)]
  show (barParts false (orDash path).toList).length = _
  rcases orDash_cases path with hpath | ⟨hempty, hdash⟩
  · rw [hpath]
  · rw [hdash, hempty]
    rfl

/-- A row has four cells and those that its path is cut into. -/
theorem cellsOf?_line (r : Row) :
    ∃ cells, cellsOf? r.line.toList = some cells ∧
      cells.length = 4 + (barParts false r.path.toList).length := by
  have hone (text : String) : (barParts false (cell text).toList).length = 1 :=
    length_barParts_false_iff.mpr (barsEscaped_cell text)
  refine ⟨_, by rw [Row.toList_line, cellsOf?_rowChars], ?_⟩
  simp only [Row.cells, List.flatMap_cons, List.flatMap_nil, List.length_append, List.length_nil,
    length_barParts_padded, hone, length_barParts_quotedPath]
  omega

theorem cellsOf?_fitting {r : Row} (h : FitsRow r.path) :
    cellsOf? r.line.toList = some (r.cells.map padded) := by
  have hpath : BarsEscaped (quotedPath r.path).toList := by
    rw [← length_barParts_false_iff, length_barParts_quotedPath]
    exact length_barParts_false_iff.mpr h.bars
  rw [Row.toList_line]
  refine cellsOf?_of_barsEscaped ?_
  simp only [Row.cells, List.forall_mem_cons, List.not_mem_nil, false_imp_iff, implies_true,
    and_true]
  exact ⟨barsEscaped_cell _, barsEscaped_cell _, hpath, barsEscaped_cell _, barsEscaped_cell _⟩

/-- The line breaks of a row are those of its path. -/
theorem lineCount_line (r : Row) : lineCount r.line = lineCount r.path := by
  have hcell (text : String) : (cell text).toList.count '\n' = 0 :=
    List.count_eq_zero.mpr fun h => absurd (eq_space_of_mem_cell h rfl) (by decide)
  have hdash : lineCount (orDash r.path) = lineCount r.path := by
    rcases orDash_cases r.path with hpath | ⟨hempty, hdash⟩
    · rw [hpath]
    · rw [hdash, hempty]
      rfl
  rw [← hdash]
  simp [lineCount, Row.line, hcell]

/-! ### Rows of a table -/

/-- Lines with rows in between are a table if every path fits. -/
theorem isTable_of_fitting (header rule : String) (hheader : '\n' ∉ header.toList)
    (hrule : '\n' ∉ rule.toList) {rs : List Row} (h : ∀ r ∈ rs, FitsRow r.path) :
    IsTable header rule (linesText (header :: rule :: rs.map Row.line))
      (rs.map fun r => r.cells.map padded) := by
  have hlines : ∀ l ∈ header :: rule :: rs.map Row.line, '\n' ∉ l.toList := by
    rw [List.forall_mem_cons, List.forall_mem_cons, List.forall_mem_map]
    refine ⟨hheader, hrule, fun r hr => ?_⟩
    rw [← lineCount_eq_zero_iff, lineCount_line, lineCount_eq_zero_iff]
    exact (h r hr).lineBreak
  refine ⟨(rs.map Row.line).map String.toList, linesOf_linesText (List.cons_ne_nil _ _) hlines, ?_⟩
  rw [List.map_map, List.forall₂_map_left_iff, List.forall₂_map_right_iff, List.forall₂_same]
  exact fun r hr => cellsOf?_fitting (h r hr)

theorem exists_of_forall₂ {α β : Type} {R : α → β → Prop} {P : β → Prop} {xs : List α}
    {ys : List β} (h : List.Forall₂ R xs ys) (hys : ∀ y ∈ ys, P y) :
    ∀ x ∈ xs, ∃ y, R x y ∧ P y := by
  induction h with
  | nil => exact nofun
  | cons hxy _ ih =>
      rw [List.forall_mem_cons] at hys ⊢
      exact ⟨⟨_, hxy, hys.1⟩, ih hys.2⟩

/-- Lines with rows in between are a table of five columns only if every path fits. -/
theorem fitting_of_isTable {header rule : String} {rs : List Row} {rows : List (List (List Char))}
    (h : IsTable header rule (linesText (header :: rule :: rs.map Row.line)) rows)
    (hcount : rows.length = rs.length) (hcells : ∀ row ∈ rows, row.length = 5) :
    ∀ r ∈ rs, FitsRow r.path := by
  obtain ⟨lines, hlines, hrows⟩ := h
  have hne : header :: rule :: rs.map Row.line ≠ [] := List.cons_ne_nil _ _
  -- There are as many lines as rows, so no line break is left for a path.
  have hbreaks : ((header :: rule :: rs.map Row.line).map lineCount).sum = 0 := by
    have hpieces := Text.length_pieces '\n' (linesText (header :: rule :: rs.map Row.line)).toList
    rw [← linesOf, hlines, ← lineCount, lineCount_linesText hne] at hpieces
    simp only [List.length_cons, List.length_append, List.length_map, List.length_nil,
      hrows.length_eq, hcount] at hpieces
    omega
  rw [List.sum_eq_zero_iff_forall_eq_nat, List.forall_mem_map] at hbreaks
  have hread := linesOf_linesText hne fun l hl => lineCount_eq_zero_iff.mp (hbreaks l hl)
  rw [hlines, List.map_cons, List.map_cons, List.cons_append, List.cons_append, List.cons_inj_right,
    List.cons_inj_right, List.append_cancel_right_eq] at hread
  rw [hread, List.map_map, List.forall₂_map_left_iff] at hrows
  intro r hr
  constructor
  case lineBreak =>
    rw [← lineCount_eq_zero_iff, ← lineCount_line]
    refine hbreaks _ (List.mem_cons_of_mem _ (List.mem_cons_of_mem _ ?_))
    exact List.mem_map_of_mem hr
  case bars =>
    obtain ⟨row, hrow, hfive⟩ := exists_of_forall₂ hrows hcells r hr
    obtain ⟨cells, hread, hlength⟩ := cellsOf?_line r
    have hsame : cells = row := Option.some.inj (hread.symm.trans hrow)
    rw [← length_barParts_false_iff]
    rw [hsame] at hlength
    omega

/-! ### The endpoint table -/

/-- The row of an endpoint with its group. -/
def entryRow (entry : Endpoint × String) : Row :=
  Row.ofEndpoint entry.1 entry.2

theorem endpointRows_eq (es : List Endpoint) :
    endpointRows es = ((es.zip (groups es)).mergeSort fun a b =>
      Row.atMost (entryRow a) (entryRow b)).map entryRow := by
  have hzip : List.zipWith Row.ofEndpoint es (groups es) = (es.zip (groups es)).map entryRow := by
    rw [List.zip_eq_zipWith, List.map_zipWith]
    rfl
  rw [endpointRows, hzip]
  exact (List.map_mergeSort (f := entryRow) fun _ _ _ _ => rfl).symm

theorem length_endpointRows (es : List Endpoint) : (endpointRows es).length = es.length := by
  rw [endpointRows_eq, List.length_map, List.length_mergeSort, List.length_zip, groups_eq_map,
    List.length_map, Nat.min_self]

theorem fitting_rows_iff (es : List Endpoint) :
    (∀ r ∈ endpointRows es, FitsRow r.path) ↔ ∀ e ∈ es, FitsRow e.path := by
  have hfst : (es.zip (groups es)).map Prod.fst = es :=
    List.map_fst_zip (by rw [groups_eq_map, List.length_map])
  conv => rhs; rw [← hfst]
  rw [endpointRows_eq, List.forall_mem_map, List.forall_mem_map]
  refine forall_congr' fun entry => ?_
  rw [List.mem_mergeSort]
  exact Iff.rfl

/-- The order of rows, seen from the endpoints and their groups. -/
theorem sortsBy_entryRow :
    SortsBy (fun entry : Endpoint × String => (entry.2, entry.1.path))
      fun a b => Row.atMost (entryRow a) (entryRow b) :=
  sortsBy_atMost.comap entryRow

/--
**An endpoint table is a table exactly if every path fits into a row.**  Then its rows are the
endpoints in the order of their groups and paths, those with equal ones in the order in which they
come.
-/
theorem isEndpointTable_iff_fitsRow (es : List Endpoint) :
    ((∃ rows, IsEndpointTable (endpointTable es) rows ∧ rows.length = es.length ∧
        ∀ row ∈ rows, row.length = 5) ↔ ∀ e ∈ es, FitsRow e.path) ∧
      ∃ order : List (Endpoint × String),
        KeepsOrder (fun entry => (entry.2, entry.1.path)) (es.zip (groups es)) order ∧
        (order.Pairwise fun a b => a.2 < b.2 ∨ a.2 = b.2 ∧ a.1.path ≤ b.1.path) ∧
        ((∀ e ∈ es, FitsRow e.path) → IsEndpointTable (endpointTable es)
          (order.map fun entry => (entryRow entry).cells.map padded)) := by
  have hlength := length_endpointRows es
  have htable (h : ∀ e ∈ es, FitsRow e.path) : IsEndpointTable (endpointTable es)
      ((endpointRows es).map fun r => r.cells.map padded) :=
    isTable_of_fitting _ _ (by decide) (by decide) ((fitting_rows_iff es).mpr h)
  refine ⟨⟨?_, fun h => ⟨_, htable h, ?_, ?_⟩⟩, _, keepsOrder_mergeSort sortsBy_entryRow _, ?_, ?_⟩
  · rintro ⟨rows, hrows, hcount, hcells⟩
    exact (fitting_rows_iff es).mp (fitting_of_isTable hrows (hcount.trans hlength.symm) hcells)
  · rw [List.length_map, hlength]
  · exact List.forall_mem_map.mpr fun r _ => rfl
  · refine (List.pairwise_mergeSort sortsBy_entryRow.trans sortsBy_entryRow.total _).imp ?_
    intro a b hab
    rcases atMost_iff.mp hab with hpath | ⟨hne, hgroup⟩
    · exact Or.inr hpath
    · exact Or.inl (Std.lt_of_le_of_ne hgroup hne)
  · intro h
    have hrows := htable h
    rwa [endpointRows_eq, List.map_map] at hrows

/-- Bars and line breaks in tags and summaries do not make rows and cells, nor does a bar in a path
that a backslash stands in front of. -/
def dishes : List Endpoint :=
  [{ stall "/dishes/\x7bkind:a\\|b\x7d" with tags := ["Sweet | sour"], summary := "One\nor | two" },
    { stall "/dishes" with tags := ["Sweet | sour"], verb := .post },
    { stall "" with tags := ["All"] }]

theorem isEndpointTable_iff_fitsRow_dishes :
    (∀ e ∈ dishes, FitsRow e.path) ∧ ∃ rows, IsEndpointTable (endpointTable dishes) rows ∧
      rows.length = 3 ∧ ∀ row ∈ rows, row.length = 5 := by
  have hfits : ∀ e ∈ dishes, FitsRow e.path := by decide
  exact ⟨hfits, (isEndpointTable_iff_fitsRow dishes).1.mpr hfits⟩

/-- An endpoint with a choice in its path. -/
def choice : List Endpoint :=
  [{ stall "/dishes/\x7bkind:a|b\x7d" with tags := ["Dishes"] }]

theorem not_isEndpointTable_choice :
    ¬∃ rows, IsEndpointTable (endpointTable choice) rows ∧ rows.length = 1 ∧
      ∀ row ∈ rows, row.length = 5 := by
  rintro ⟨rows, hrows, hcount, hcells⟩
  have hlength : rows.length = (endpointRows choice).length :=
    hcount.trans (length_endpointRows choice).symm
  have hfits := (fitting_rows_iff choice).mp (fitting_of_isTable hrows hlength hcells)
  revert hfits
  decide

end ServiceAtlas.Report
