/-
The model table is decodable.

The table is read section by section: a heading, the line of the description, the head of a table,
and the rows, one after another up to an empty line.  `sectionsIn?` accepts no other text, so what
it returns accounts for every line.  `sectionsIn?_modelTable` says that it returns one section for
each model, in the order of their names, and that the rows of a section hold the properties of the
model, whatever bars, backslashes, blanks and line separators their texts have.  A type comes back
as it is written, since a type whose names have no blanks has single spaces only
(`shown_text`).

Sections are lists of lines with an empty line behind each, so the lemmas about rows and about one
section are stated with whatever lines follow.
-/
import ServiceAtlas.Proofs.EndpointRows
import ServiceAtlas.Proofs.Resolution

namespace ServiceAtlas

open ServiceAtlas.Text

/-! ### Spaces in types -/

namespace TypeRef

/-- Every name in the type, at any depth, is a word. -/
def HasWords (t : TypeRef) : Prop :=
  ∀ p, t.Within p → IsWord p.base.toList

theorem HasWords.arg {t a : TypeRef} (h : t.HasWords) (ha : a ∈ t.args) : a.HasWords :=
  fun p hp => h p (.head ha hp)

mutual

theorem isSpaced_text : ∀ {t : TypeRef}, t.HasWords → IsSpaced t.text.toList ∧ t.text.toList ≠ []
  | .mk base [], h => by
      have hbase : IsWord base.toList := h _ .refl
      rw [text]
      exact ⟨isSpaced_of_isWord hbase, hbase.ne_nil⟩
  | .mk base (a :: as), h => by
      have hbase : IsWord base.toList := h _ .refl
      obtain ⟨ha, hane⟩ := isSpaced_text (h.arg List.mem_cons_self)
      have hopen : IsSpaced (base.toList ++ ['<']) :=
        (isSpaced_of_isWord hbase).glue rfl hbase.ne_nil (List.cons_ne_nil _ _)
      have hfirst := hopen.glue ha (by simp) hane
      have hargs := isSpaced_argsText (fun b hb => h.arg (List.mem_cons_of_mem a hb)) hfirst
        (by simp)
      have hclose : IsSpaced ['>'] := rfl
      have hall := hargs.glue hclose (by simp) (List.cons_ne_nil _ _)
      have htext : (text (.mk base (a :: as))).toList
          = base.toList ++ ['<'] ++ (text a).toList ++ (argsText as).toList ++ ['>'] := by
        simp [text]
      rw [htext]
      exact ⟨hall, by simp⟩

theorem isSpaced_argsText : ∀ {as : List TypeRef} {cs : List Char},
    (∀ a ∈ as, a.HasWords) → IsSpaced cs → cs ≠ [] → IsSpaced (cs ++ (argsText as).toList)
  | [], cs, _, hcs, _ => by simpa [argsText] using hcs
  | a :: as, cs, h, hcs, hne => by
      obtain ⟨ha, hane⟩ := isSpaced_text (h a List.mem_cons_self)
      have hcomma : IsSpaced (cs ++ [',']) := hcs.glue rfl hne (List.cons_ne_nil _ _)
      have hfirst := hcomma.append ha (by simp) hane
      have hrest := isSpaced_argsText (fun b hb => h b (List.mem_cons_of_mem a hb)) hfirst (by simp)
      simpa [argsText] using hrest

end

end TypeRef

namespace Report

/-- A type is shown as it is written. -/
theorem shown_text {t : TypeRef} (h : t.HasWords) : shown t.text = t.text := by
  obtain ⟨hspaced, hne⟩ := TypeRef.isSpaced_text h
  rw [← String.toList_inj, toList_shown, hspaced, if_neg hne]

/-! ### Reading sections -/

/-- A section as it is read: the name behind the heading mark, the description as it is escaped,
and the cells of its rows. -/
structure Section where
  name : List Char
  description : List Char
  rows : List (List (List Char))

mutual

/-- The sections that lines show one behind another, if they show nothing else. -/
def sectionsOn? : List (List Char) → Option (List Section)
  | heading :: gap :: about :: gap' :: header :: rule :: rest =>
    match heading.dropPrefix? "### ".toList, about.dropPrefix? "_Description_: ".toList with
    | some name, some description =>
      if gap = [] ∧ gap' = [] ∧ header = "| Field | Type | Required | Description |".toList
          ∧ rule = "|-------|------|----------|-------------|".toList then
        rowsOn? ⟨name, description, []⟩ rest
      else none
    | _, _ => none
  | [] => some []
  | _ => none

/-- The sections that lines show where rows of one have been read. -/
def rowsOn? (s : Section) : List (List Char) → Option (List Section)
  | [] :: rest => (sectionsOn? rest).map (s :: ·)
  | line :: rest =>
    match cellsOf? line with
    | some cells => rowsOn? { s with rows := s.rows ++ [cells] } rest
    | none => none
  | [] => none

end

/-- The sections of a model table, if the text is one. -/
def sectionsIn? (text : String) : Option (List Section) :=
  if text = "" then some [] else sectionsOn? (linesOf text)

/-- The text of a property's type, empty without one. -/
def typeText (p : Property) : String :=
  (p.type.map TypeRef.text).getD ""

/-- The texts in the row of a property. -/
def propertyTexts (p : Property) : List String :=
  [shown p.name, shown (typeText p), if p.required then "yes" else "no", shown p.description]

/-- The texts in the rows of a model. -/
def modelTexts (m : Model) : List (List String) :=
  if m.properties.isEmpty then [["-", "-", "-", "-"]] else m.properties.map propertyTexts

/-- The row that holds texts. -/
def rowOf (texts : List String) : List Char :=
  rowChars (texts.map fun text => escapeBars text.toList)

/-- The cells of that row. -/
def rowCells (texts : List String) : List (List Char) :=
  texts.map fun text => padded (escapeBars text.toList)

theorem cellsOf?_rowOf (texts : List String) : cellsOf? (rowOf texts) = some (rowCells texts) := by
  have hbars : ∀ c ∈ texts.map fun text => escapeBars text.toList, BarsEscaped c :=
    List.forall_mem_map.mpr fun text _ => barsEscaped_escapeBars _
  rw [rowOf, cellsOf?_of_barsEscaped hbars, List.map_map]
  rfl

theorem map_held?_rowCells (texts : List String) :
    (rowCells texts).map held? = texts.map fun text => some text.toList := by
  rw [rowCells, List.map_map]
  refine List.map_congr_left fun text _ => ?_
  exact held?_escapeBars text.toList

theorem toList_propertyLine (p : Property) :
    (propertyLine p).toList = rowOf (propertyTexts p) := by
  have hline : propertyLine p = "| " ++ cell p.name ++ " | " ++ cell (typeText p) ++ " | "
      ++ (if p.required then "yes" else "no") ++ " | " ++ cell p.description ++ " |" := by
    unfold propertyLine typeText
    cases p.type <;> rfl
  have hyes : escapeBars ['y', 'e', 's'] = ['y', 'e', 's'] := rfl
  have hno : escapeBars ['n', 'o'] = ['n', 'o'] := rfl
  rw [hline]
  by_cases hrequired : p.required = true
  · simp [rowOf, propertyTexts, rowChars, padded, cell_eq, hrequired, hyes]
  · simp [rowOf, propertyTexts, rowChars, padded, cell_eq, hrequired, hno]

/-- The lines of a section. -/
def sectionLines (m : Model) : List (List Char) :=
  ["### ".toList ++ (orDash m.name).toList, [],
    "_Description_: ".toList ++ (cell m.description).toList, [],
    "| Field | Type | Required | Description |".toList,
    "|-------|------|----------|-------------|".toList] ++ (modelTexts m).map rowOf

/-- The section of a model as it is read. -/
def sectionOf (m : Model) : Section where
  name := (orDash m.name).toList
  description := (cell m.description).toList
  rows := (modelTexts m).map rowCells

theorem rowsOn?_row (s : Section) (texts : List String) (rest : List (List Char)) :
    rowsOn? s (rowOf texts :: rest)
      = rowsOn? { s with rows := s.rows ++ [rowCells texts] } rest := by
  rw [rowsOn?.eq_def]
  show (match cellsOf? (rowOf texts) with
    | some cells => rowsOn? { s with rows := s.rows ++ [cells] } rest
    | none => none) = _
  rw [cellsOf?_rowOf]

theorem rowsOn?_rows (rest : List (List Char)) :
    ∀ (rows : List (List String)) (s : Section), rowsOn? s (rows.map rowOf ++ rest)
      = rowsOn? { s with rows := s.rows ++ rows.map rowCells } rest := by
  intro rows
  induction rows with
  | nil => intro s; simp
  | cons texts rows ih =>
      intro s
      rw [List.map_cons, List.cons_append, rowsOn?_row, ih]
      simp

/-- One section is read off its lines, whatever lines follow. -/
theorem sectionsOn?_sectionLines (m : Model) (rest : List (List Char)) :
    sectionsOn? (sectionLines m ++ [] :: rest) = (sectionsOn? rest).map (sectionOf m :: ·) := by
  have hprefix (mark text : List Char) : (mark ++ text).dropPrefix? mark = some text :=
    List.dropPrefix?_append_of_beq _ (beq_self_eq_true _)
  rw [sectionLines, List.append_assoc]
  show sectionsOn? (_ :: _ :: _ :: _ :: _ :: _ :: ((modelTexts m).map rowOf ++ [] :: rest)) = _
  rw [sectionsOn?, hprefix, hprefix]
  show (if _ then rowsOn? _ ((modelTexts m).map rowOf ++ [] :: rest) else none) = _
  rw [if_pos ⟨rfl, rfl, rfl, rfl⟩, rowsOn?_rows, rowsOn?, sectionOf]
  simp only [List.nil_append]

theorem sectionsOn?_sections (ms : List Model) :
    sectionsOn? (ms.flatMap fun m => sectionLines m ++ [[]]) = some (ms.map sectionOf) := by
  induction ms with
  | nil => rfl
  | cons m ms ih =>
      have hlines : (m :: ms).flatMap (fun m => sectionLines m ++ [[]])
          = sectionLines m ++ [] :: ms.flatMap fun m => sectionLines m ++ [[]] := by
        simp
      rw [hlines, sectionsOn?_sectionLines, ih]
      rfl

/-! ### Lines of the table -/

theorem eq_space_of_mem_rowOf {texts : List String}
    (h : ∀ text ∈ texts, ∀ c ∈ text.toList, isBlank c = true → c = ' ') {c : Char}
    (hc : c ∈ rowOf texts) (hblank : isBlank c = true) : c = ' ' := by
  have hother {d : Char} (hd : isBlank d = false) : c ≠ d := by
    rintro rfl
    exact not_isBlank_of_eq_false hd hblank
  simp only [rowOf, rowChars, padded, List.mem_cons, List.mem_flatMap, List.mem_map,
    List.mem_append, List.not_mem_nil, or_false] at hc
  rcases hc with hbar | ⟨cell, ⟨text, htext, rfl⟩, ((hspace | hmem) | hspace) | hbar⟩
  · exact absurd hbar (hother rfl)
  · exact hspace
  · exact (mem_escapeBars hmem).elim (fun h => absurd h (hother rfl))
      fun hmem => h text htext c hmem hblank
  · exact hspace
  · exact absurd hbar (hother rfl)

theorem eq_space_of_mem_row {m : Model} {row : List Char} (hrow : row ∈ (modelTexts m).map rowOf)
    {c : Char} (hc : c ∈ row) (hblank : isBlank c = true) : c = ' ' := by
  have hfixed {text : String} (htext : IsWord text.toList) :
      ∀ d ∈ text.toList, isBlank d = true → d = ' ' := fun d hd hblank =>
    absurd hblank (not_isBlank_of_eq_false (htext.unblank d hd))
  obtain ⟨texts, htexts, rfl⟩ := List.mem_map.mp hrow
  refine eq_space_of_mem_rowOf (fun text htext => ?_) hc hblank
  unfold modelTexts at htexts
  split at htexts
  · obtain rfl := List.mem_singleton.mp htexts
    simp only [List.mem_cons, List.not_mem_nil, or_false, or_self] at htext
    rw [htext]
    exact hfixed (by decide)
  · obtain ⟨p, -, rfl⟩ := List.mem_map.mp htexts
    simp only [propertyTexts, List.mem_cons, List.not_mem_nil, or_false] at htext
    rcases htext with rfl | rfl | rfl | rfl
    · exact fun d => eq_space_of_mem_shown
    · exact fun d => eq_space_of_mem_shown
    · refine hfixed ?_
      split <;> decide
    · exact fun d => eq_space_of_mem_shown

/-- A line boundary in a line of a section comes from the name of the model. -/
theorem mem_name_of_isLineEnd {m : Model} {l : List Char} (hl : l ∈ sectionLines m) {c : Char}
    (hc : c ∈ l) (hend : isLineEnd c = true) : c ∈ m.name.toList := by
  have hother {cs : List Char} (hcs : IsLine cs) : c ∉ cs := by
    intro hmem
    rw [hcs c hmem] at hend
    cases hend
  have hspace : c ≠ ' ' := by
    rintro rfl
    exact absurd hend (by decide)
  have hblank := isBlank_of_isLineEnd hend
  simp only [sectionLines, List.mem_append, List.mem_cons, List.not_mem_nil, or_false] at hl
  rcases hl with (rfl | rfl | rfl | rfl | rfl | rfl) | hrow
  · rcases List.mem_append.mp hc with hmark | hname
    · exact absurd hmark (hother (by decide))
    · rcases orDash_cases m.name with hsame | ⟨-, hdash⟩
      · rwa [hsame] at hname
      · rw [hdash] at hname
        exact absurd hname (hother (by decide))
  · cases hc
  · rcases List.mem_append.mp hc with hmark | hcell
    · exact absurd hmark (hother (by decide))
    · exact absurd (eq_space_of_mem_cell hcell hblank) hspace
  · cases hc
  · exact absurd hc (hother (by decide))
  · exact absurd hc (hother (by decide))
  · exact absurd (eq_space_of_mem_row hrow hc hblank) hspace

theorem linesOf_modelSection {m : Model} (h : '\n' ∉ m.name.toList) :
    linesOf (modelSection m) = sectionLines m ++ [[]] := by
  have hlines : ((["### " ++ orDash m.name, "", "_Description_: " ++ cell m.description, "",
      "| Field | Type | Required | Description |", "|-------|------|----------|-------------|"]
      ++ (if m.properties.isEmpty then ["| - | - | - | - |"]
        else m.properties.map propertyLine)).map String.toList) = sectionLines m := by
    have hrows : ((if m.properties.isEmpty then ["| - | - | - | - |"]
        else m.properties.map propertyLine).map String.toList) = (modelTexts m).map rowOf := by
      unfold modelTexts
      split
      · rfl
      · rw [List.map_map, List.map_map]
        exact List.map_congr_left fun p _ => toList_propertyLine p
    rw [List.map_append, hrows]
    simp [sectionLines]
  rw [modelSection, linesOf_linesText (by simp), hlines]
  intro l hl hbreak
  have hmem : l.toList ∈ sectionLines m := hlines ▸ List.mem_map_of_mem hl
  exact h (mem_name_of_isLineEnd hmem hbreak rfl)

/-- The sections of a table have an empty line between them, and one is left behind the last. -/
theorem linesOf_sections : ∀ {ms : List Model}, ms ≠ [] → (∀ m ∈ ms, '\n' ∉ m.name.toList) →
    linesOf (joined "\n" (ms.map modelSection)) = ms.flatMap fun m => sectionLines m ++ [[]]
  | [], hne, _ => absurd rfl hne
  | [m], _, h => by
      rw [List.flatMap_cons, List.flatMap_nil, List.append_nil]
      exact linesOf_modelSection (h m List.mem_cons_self)
  | m :: m' :: ms, _, h => by
      rw [List.forall_mem_cons] at h
      have hrest := linesOf_sections (List.cons_ne_nil m' ms) h.2
      have htext : (joined "\n" ((m :: m' :: ms).map modelSection)).toList
          = (modelSection m).toList ++ '\n' :: (joined "\n" ((m' :: ms).map modelSection)).toList := by
        simp [joined]
      rw [linesOf, htext, pieces_append, List.flatMap_cons, ← hrest, ← linesOf_modelSection h.1]
      rfl

theorem linesOf_sections_ne {ms : List Model} (hne : ms ≠ []) :
    (ms.flatMap fun m => sectionLines m ++ [[]]) ≠ [[]] := by
  cases ms with
  | nil => exact absurd rfl hne
  | cons m ms => exact fun h => absurd (List.cons.inj h).2 (List.cons_ne_nil _ _)

theorem sectionsIn?_sections {ms : List Model} (h : ∀ m ∈ ms, '\n' ∉ m.name.toList) :
    sectionsIn? (joined "\n" (ms.map modelSection)) = some (ms.map sectionOf) := by
  by_cases hne : ms = []
  · subst hne
    rfl
  · have hlines := linesOf_sections hne h
    rw [sectionsIn?, if_neg, hlines, sectionsOn?_sections]
    intro hempty
    rw [hempty] at hlines
    exact linesOf_sections_ne hne hlines.symm

theorem mem_name_of_mem_sections {ms : List Model} (h : ∀ m ∈ ms, '\n' ∉ m.name.toList) {c : Char}
    (hc : c ∈ (joined "\n" (ms.map modelSection)).toList) (hend : isLineEnd c = true)
    (hbreak : c ≠ '\n') : ∃ m ∈ ms, c ∈ m.name.toList := by
  by_cases hne : ms = []
  · subst hne
    cases hc
  · obtain ⟨l, hl, hmem⟩ := mem_pieces hbreak hc
    rw [← linesOf, linesOf_sections hne h, List.mem_flatMap] at hl
    obtain ⟨m, hm, hl⟩ := hl
    rcases List.mem_append.mp hl with hl | hl
    · exact ⟨m, hm, mem_name_of_isLineEnd hl hmem hend⟩
    · rw [List.mem_singleton.mp hl] at hmem
      cases hmem

/-! ### What sections show -/

/-- The row holds what there is to a property, in four cells. -/
def ShowsProperty (p : Property) (cells : List (List Char)) : Prop :=
  cells.map held? = [some (shown p.name).toList, some (shown (typeText p)).toList,
    some (if p.required then "yes" else "no").toList, some (shown p.description).toList]

/-- The section shows the model: a row for each property, or one that holds nothing. -/
structure ShowsModel (m : Model) (s : Section) : Prop where
  name : s.name = (orDash m.name).toList
  description : unescapeBars s.description = (shown m.description).toList
  rows : m.properties ≠ [] → List.Forall₂ ShowsProperty m.properties s.rows
  placeholder : m.properties = [] →
    s.rows.map (·.map held?) = [[some ['-'], some ['-'], some ['-'], some ['-']]]

theorem showsModel_sectionOf (m : Model) : ShowsModel m (sectionOf m) where
  name := rfl
  description := by
    unfold sectionOf
    dsimp only
    rw [cell_eq, unescapeBars_escapeBars]
  rows hsome := by
    have hnonempty : m.properties.isEmpty = false := by simpa using hsome
    rw [sectionOf, modelTexts, hnonempty]
    show List.Forall₂ _ _ ((m.properties.map propertyTexts).map rowCells)
    rw [List.map_map, List.forall₂_map_right_iff, List.forall₂_same]
    exact fun p _ => map_held?_rowCells (propertyTexts p)
  placeholder hnone := by
    rw [sectionOf, modelTexts, hnone]
    rfl

/--
**The model table is decodable.**  Where no name has a line break in it, the text shows one section
for each model and nothing else, the sections in the order of the names and those of equal names
in the order of the models, and the rows of a section hold what is shown of the properties.  Line
boundaries of other kinds come from names alone, and a type with single spaces is shown as it is.
-/
theorem sectionsIn?_modelTable {ms : List Model} (h : ∀ m ∈ ms, '\n' ∉ m.name.toList) :
    (∃ order sections, KeepsOrder Model.name ms order ∧
      order.Pairwise (fun a b => a.name ≤ b.name) ∧
      sectionsIn? (modelTable ms) = some sections ∧ List.Forall₂ ShowsModel order sections) ∧
    (∀ c ∈ (modelTable ms).toList, isLineEnd c = true →
      c = '\n' ∨ ∃ m ∈ ms, c ∈ m.name.toList) ∧
    ∀ m ∈ ms, ∀ p ∈ m.properties, ∀ t ∈ p.type, t.HasWords → shown (typeText p) = t.text := by
  have hsorted : ∀ m ∈ sortedModels ms, '\n' ∉ m.name.toList := fun m hm =>
    h m (List.mem_mergeSort.mp hm)
  have hsorts := sortsBy_text Model.name
  refine ⟨⟨sortedModels ms, (sortedModels ms).map sectionOf, keepsOrder_mergeSort hsorts ms, ?_,
    ?_, ?_⟩, ?_, ?_⟩
  · exact (List.pairwise_mergeSort hsorts.trans hsorts.total ms).imp of_decide_eq_true
  · exact sectionsIn?_sections hsorted
  · rw [List.forall₂_map_right_iff, List.forall₂_same]
    exact fun m _ => showsModel_sectionOf m
  · intro c hc hend
    by_cases hbreak : c = '\n'
    · exact Or.inl hbreak
    · obtain ⟨m, hm, hname⟩ := mem_name_of_mem_sections hsorted hc hend hbreak
      exact Or.inr ⟨m, List.mem_mergeSort.mp hm, hname⟩
  · intro m _ p _ t ht hwords
    rw [typeText, ht]
    exact shown_text hwords

/-- Bars behind backslashes, line separators and blanks at the ends, in a name and in texts. -/
def parcelModels : List Model :=
  [{ Model.plain "Parcel | small" with
      description := "\u2028One\\|two\n|three\\"
      properties := [.plain "to\\" (some (.mk "Map" [.mk "Key" [], .mk "List" [.mk "Stop" []]])),
        .plain " |from\x0b by| " none] },
    .plain "Depot", .plain "Parcel | small"]

theorem sectionsIn?_modelTable_parcelModels :
    (∀ m ∈ parcelModels, '\n' ∉ m.name.toList) ∧
      ∃ order sections, KeepsOrder Model.name parcelModels order ∧
        order.Pairwise (fun a b => a.name ≤ b.name) ∧
        sectionsIn? (modelTable parcelModels) = some sections ∧
        List.Forall₂ ShowsModel order sections := by
  have hnames : ∀ m ∈ parcelModels, '\n' ∉ m.name.toList := by decide
  exact ⟨hnames, (sectionsIn?_modelTable hnames).1⟩

end Report

end ServiceAtlas
