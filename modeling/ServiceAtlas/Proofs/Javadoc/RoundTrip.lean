/-
A documentation comment is read back as what was written.

A `Sheet` is what a comment says: the lines of its description, its parameters, and what it says of
the result, the deprecation and the version.  It is written as the lines of the description and
then its entries, in any order and broken over lines at any spaces, in rows with any indentation.
Reading the comment gives the sheet back (`holds_parse_comment`).

The description is cleaned of the empty text that the row of the opening mark leaves and of the one
that the row of the closing mark may leave, and of nothing else.  Behind it there is one block for
each entry.  A block changes one field of the documentation, so what a field holds in the end is
read off the entries that change it (`foldl_note_field`), and since no two entries of a sheet change
the same field or the same parameter, their order does not matter.
-/
import ServiceAtlas.Proofs.Javadoc.Blocks
import ServiceAtlas.Proofs.OrderedMap

namespace ServiceAtlas

namespace Text

theorem unlines_cons {ls : List (List Char)} (h : ls ≠ []) (l : List Char) :
    unlines (l :: ls) = l ++ '\n' :: unlines ls := by
  cases ls with
  | nil => exact absurd rfl h
  | cons k ls => rfl

theorem unlines_concat {ls : List (List Char)} (h : ls ≠ []) (l : List Char) :
    unlines (ls ++ [l]) = unlines ls ++ '\n' :: l := by
  induction ls with
  | nil => exact absurd rfl h
  | cons k ls ih =>
      by_cases hls : ls = []
      · rw [hls]
        rfl
      · rw [List.cons_append, unlines_cons (by simp), ih hls, unlines_cons hls, List.append_assoc]
        rfl

end Text

namespace Javadoc

open ServiceAtlas.Text

/-! ### Sheets -/

/-- A text of several lines that no block is opened in. -/
structure Description where
  lines : List (List Char)
  isLine : ∀ l ∈ lines, IsLine l
  ended : ∀ l ∈ lines, trimEndWhere isBlank l = l
  unopened : ∀ l ∈ lines, opensBlock l = false
  trimmed : trim (unlines lines) = unlines lines
  unbroken : ¬threeBreaks <:+: unlines lines
  plain : ¬inlineOpening <:+: unlines lines

/-- What a documentation comment says. -/
structure Sheet where
  description : Description
  params : List (ParamName × Phrase)
  distinct : (params.map fun p => p.1.text).Nodup
  returns : Option Phrase
  deprecated : Option Phrase
  since : Option Phrase

/-- The entries of a sheet, in one of the orders in which they may be written. -/
def Sheet.entries (s : Sheet) : List Entry :=
  s.params.map (fun p => .param p.1 p.2) ++ (s.returns.toList.map .returns ++
    (s.deprecated.toList.map .deprecated ++ s.since.toList.map .since))

def Phrase.string (p : Phrase) : String :=
  String.ofList p.text

def ParamName.string (n : ParamName) : String :=
  String.ofList n.text

/-- The documentation holds what the sheet says: no less, and no more. -/
structure Holds (d : Documentation) (s : Sheet) : Prop where
  description : d.description.toList = unlines s.description.lines
  params : d.params.entries.Perm (s.params.map fun p => (p.1.string, p.2.string))
  returns : d.returns = (s.returns.map Phrase.string).getD ""
  deprecated : d.deprecated = s.deprecated.map Phrase.string
  since : d.since = (s.since.map Phrase.string).getD ""

/-! ### The description -/

/-- A break before a text and one behind it do not make three in a row. -/
theorem not_threeBreaks_padded {cs tail : List Char} (htrim : trim cs = cs)
    (h : ¬threeBreaks <:+: cs) (htail : tail = [] ∨ tail = ['\n']) :
    ¬threeBreaks <:+: '\n' :: (cs ++ tail) := by
  intro hin
  rw [List.infix_cons_iff] at hin
  rcases hin with hfront | hin
  · cases cs with
    | nil => rcases htail with rfl | rfl <;> revert hfront <;> decide
    | cons c cs =>
        have hc := head_of_trimWhere_eq htrim
        unfold threeBreaks at hfront
        rw [List.cons_append, List.cons_prefix_cons, List.cons_prefix_cons] at hfront
        rw [← hfront.2.1] at hc
        cases hc
  · rcases htail with rfl | rfl
    · rw [List.append_nil] at hin
      exact h hin
    · rw [List.infix_concat_iff] at hin
      rcases hin with hback | hin
      · obtain ⟨front, hfront⟩ := hback
        have hcs : front ++ ['\n', '\n'] = cs := by
          have hboth : (front ++ ['\n', '\n']) ++ ['\n'] = cs ++ ['\n'] := by
            rw [← hfront, List.append_assoc]
            rfl
          exact List.append_cancel_right hboth
        have hlast : isBlank '\n' = false := by
          have hsame : trim ((front ++ ['\n']) ++ ['\n']) = (front ++ ['\n']) ++ ['\n'] := by
            rw [List.append_assoc]
            show trim (front ++ ['\n', '\n']) = front ++ ['\n', '\n']
            rw [hcs, htrim]
          exact last_of_trimWhere_eq hsame
        cases hlast
      · exact h hin

/-- **Breaks around a description are not kept, and nothing else is lost.** -/
theorem clean_description (d : Description) {foot : List (List Char)} (hfoot : IsFoot foot) :
    clean (unlines ([] :: (d.lines ++ foot))) = unlines d.lines := by
  by_cases hnil : d.lines = []
  · rw [hnil]
    rcases hfoot with rfl | rfl <;> decide
  have hpadded : ∃ tail, (tail = [] ∨ tail = ['\n']) ∧
      unlines ([] :: (d.lines ++ foot)) = '\n' :: (unlines d.lines ++ tail) := by
    rw [unlines_cons (by simp [hnil])]
    rcases hfoot with rfl | rfl
    · exact ⟨[], Or.inl rfl, by rw [List.append_nil, List.append_nil]; rfl⟩
    · exact ⟨['\n'], Or.inr rfl, by rw [unlines_concat hnil]; rfl⟩
  obtain ⟨tail, htail, htext⟩ := hpadded
  have hplain : ¬inlineOpening <:+: '\n' :: (unlines d.lines ++ tail) := by
    intro hin
    rw [List.infix_cons_iff] at hin
    rcases hin with hfront | hin
    · revert hfront
      simp [inlineOpening]
    · rcases htail with rfl | rfl
      · rw [List.append_nil] at hin
        exact d.plain hin
      · rcases infix_append_sep (by decide) (by decide) hin with hin | hback
        · exact d.plain hin
        · revert hback
          decide
  rw [htext, clean_eq hplain (not_threeBreaks_padded d.trimmed d.unbroken htail)]
  have hbreak : ∀ c ∈ ['\n'], isBlank c = true := List.forall_mem_singleton.mpr rfl
  have hbehind : ∀ c ∈ tail, isBlank c = true := by
    rcases htail with rfl | rfl
    · exact List.forall_mem_nil _
    · exact hbreak
  have htrim := trimWhere_append_left hbreak (unlines d.lines ++ tail)
  rw [trimWhere_append_right hbehind] at htrim
  exact htrim.trans d.trimmed

/-! ### Blocks and fields -/

/-- The documentation with one more entry noted down. -/
def note (d : Documentation) : Entry → Documentation
  | .param name text => { d with params := d.params.insert name.string text.string }
  | .returns text => { d with returns := text.string }
  | .deprecated text => { d with deprecated := some text.string }
  | .since text => { d with since := text.string }

theorem addBlock_param {b : Block} (hname : b.name = "param".toList) {name : List Char}
    {rest : Option (List Char)} (hcut : cut ' ' b.text = (name, rest)) (hne : name ≠ [])
    (d : Documentation) :
    addBlock d b = { d with
      params := d.params.insert (String.ofList name) (String.ofList (trim (rest.getD []))) } := by
  obtain ⟨c, cs, rfl⟩ := List.exists_cons_of_ne_nil hne
  unfold addBlock
  dsimp only
  rw [if_pos hname, hcut]

theorem addBlock_of_carries {b : Block} {e : Entry} (h : b.Carries e) (d : Documentation) :
    addBlock d b = note d e := by
  have hname := h.name
  have htext := h.text
  cases e with
  | returns text =>
      unfold addBlock
      rw [hname, htext, Entry.content, text.spaced]
      rfl
  | deprecated text =>
      unfold addBlock
      rw [hname, htext, Entry.content, text.spaced]
      rfl
  | since text =>
      unfold addBlock
      rw [hname, htext, Entry.content, text.spaced]
      rfl
  | param name text =>
      have hspace : ' ' ∉ name.text := by
        intro hmem
        exact absurd (name.word.unblank ' ' hmem) (by decide)
      have hvalue : ∃ rest, cut ' ' b.text = (name.text, rest) ∧ trim (rest.getD []) = text.text := by
        rw [htext, Entry.content, squeeze_named]
        split
        · rename_i hnone
          refine ⟨none, cut_of_not_mem hspace, ?_⟩
          rw [hnone]
          rfl
        · exact ⟨some text.text, cut_append hspace _, text.spaced.trim_eq⟩
      obtain ⟨rest, hcut, hrest⟩ := hvalue
      rw [addBlock_param hname hcut name.word.ne_nil, hrest]
      rfl

theorem foldl_addBlock {bs : List Block} {es : List Entry} (h : List.Forall₂ Block.Carries bs es) :
    ∀ d, bs.foldl addBlock d = es.foldl note d := by
  induction h with
  | nil => intro d; rfl
  | cons hfirst _ ih =>
      intro d
      rw [List.foldl_cons, List.foldl_cons, addBlock_of_carries hfirst, ih]

/-- A field holds what the entries that change it have put into it, one after another. -/
theorem foldl_note_field {α β : Type} (get : Documentation → α) (read : Entry → Option β)
    (put : α → β → α)
    (hstep : ∀ d e, get (note d e) = (read e).elim (get d) (put (get d))) (es : List Entry) :
    ∀ d, get (es.foldl note d) = (es.filterMap read).foldl put (get d) := by
  induction es with
  | nil => intro d; rfl
  | cons e es ih =>
      intro d
      rw [List.foldl_cons, ih, hstep, List.filterMap_cons]
      cases read e <;> rfl

namespace Entry

def param? : Entry → Option (String × String)
  | param name text => some (name.string, text.string)
  | _ => none

def returns? : Entry → Option String
  | returns text => some text.string
  | _ => none

def deprecated? : Entry → Option String
  | deprecated text => some text.string
  | _ => none

def since? : Entry → Option String
  | since text => some text.string
  | _ => none

end Entry

variable {es : List Entry} {s : Sheet}

theorem description_foldl_note (es : List Entry) :
    ∀ d, (es.foldl note d).description = d.description := by
  induction es with
  | nil => intro d; rfl
  | cons e es ih =>
      intro d
      rw [List.foldl_cons, ih]
      cases e <;> rfl

/-- A field that at most one entry of a sheet changes holds what that entry says, in whatever order
the entries are noted down. -/
theorem foldl_note_single {α : Type} (get : Documentation → α) (read : Entry → Option String)
    (put : α → String → α)
    (hstep : ∀ d e, get (note d e) = (read e).elim (get d) (put (get d))) {o : Option String}
    (hread : s.entries.filterMap read = o.toList) (hes : es.Perm s.entries) (d : Documentation) :
    get (es.foldl note d) = o.elim (get d) (put (get d)) := by
  have hperm := hes.filterMap read
  rw [hread] at hperm
  have hsame : es.filterMap read = o.toList := by
    cases o with
    | none => exact hperm.eq_nil
    | some text => exact List.perm_singleton.mp hperm
  rw [foldl_note_field get read put hstep, hsame]
  cases o <;> rfl

theorem filterMap_entries {β : Type} (read : Entry → Option β) (s : Sheet) :
    s.entries.filterMap read
      = s.params.filterMap (fun p => read (.param p.1 p.2))
        ++ (s.returns.toList.filterMap (fun text => read (.returns text))
          ++ (s.deprecated.toList.filterMap (fun text => read (.deprecated text))
            ++ s.since.toList.filterMap fun text => read (.since text))) := by
  unfold Sheet.entries
  simp only [List.filterMap_append, List.filterMap_map]
  rfl

theorem param?_entries (s : Sheet) :
    s.entries.filterMap Entry.param? = s.params.map fun p => (p.1.string, p.2.string) := by
  simp [filterMap_entries, Entry.param?]

theorem returns?_entries (s : Sheet) :
    s.entries.filterMap Entry.returns? = (s.returns.map Phrase.string).toList := by
  simp [filterMap_entries, Entry.returns?, Option.toList_map]

theorem deprecated?_entries (s : Sheet) :
    s.entries.filterMap Entry.deprecated? = (s.deprecated.map Phrase.string).toList := by
  simp [filterMap_entries, Entry.deprecated?, Option.toList_map]

theorem since?_entries (s : Sheet) :
    s.entries.filterMap Entry.since? = (s.since.map Phrase.string).toList := by
  simp [filterMap_entries, Entry.since?, Option.toList_map]

theorem nodup_paramNames (s : Sheet) :
    ((s.params.map fun p => (p.1.string, p.2.string)).map Prod.fst).Nodup := by
  have hnames := s.distinct.map fun _ _ h => String.ofList_injective h
  rw [List.map_map] at hnames ⊢
  exact hnames

/-- Parameters with distinct names stand in the documentation in the order of their entries. -/
theorem params_entries (hes : es.Perm s.entries) {d : Documentation} (hd : d.params = ∅) :
    (es.foldl note d).params.entries.Perm (s.params.map fun p => (p.1.string, p.2.string)) := by
  have hperm := hes.filterMap Entry.param?
  rw [param?_entries] at hperm
  have hnodup := (hperm.map Prod.fst).nodup_iff.mpr (nodup_paramNames s)
  have hentries := OrderedMap.ofList_entries ⟨es.filterMap Entry.param?, hnodup⟩
  have hfield := foldl_note_field Documentation.params Entry.param?
    (fun m p => m.insert p.1 p.2) (fun d e => by cases e <;> rfl) es d
  rw [hfield, hd]
  show (OrderedMap.ofList (es.filterMap Entry.param?)).entries.Perm _
  rw [hentries]
  exact hperm

/-- **Entries in any order are noted down as the sheet.** -/
theorem holds_foldl_note (hes : es.Perm s.entries) :
    Holds (es.foldl note { Documentation.none with
      description := String.ofList (unlines s.description.lines) }) s where
  description := by
    rw [description_foldl_note]
    exact String.toList_ofList
  params := params_entries hes rfl
  returns := by
    rw [foldl_note_single Documentation.returns Entry.returns? (fun _ text => text)
      (fun d e => by cases e <;> rfl) (returns?_entries s) hes]
    cases s.returns <;> rfl
  deprecated := by
    rw [foldl_note_single Documentation.deprecated Entry.deprecated? (fun _ text => some text)
      (fun d e => by cases e <;> rfl) (deprecated?_entries s) hes]
    cases s.deprecated <;> rfl
  since := by
    rw [foldl_note_single Documentation.since Entry.since? (fun _ text => text)
      (fun d e => by cases e <;> rfl) (since?_entries s) hes]
    cases s.since <;> rfl

/-! ### The comment -/

theorem Phrase.isLine (p : Phrase) : IsLine p.text :=
  p.spaced.isLine

theorem Entry.isLine_text (e : Entry) : IsLine e.text := by
  have hcontent : IsLine e.content := by
    cases e with
    | param name text =>
        exact isLine_append.mpr
          ⟨name.word.isLine, isLine_cons.mpr ⟨by decide, text.isLine⟩⟩
    | returns text => exact text.isLine
    | deprecated text => exact text.isLine
    | since text => exact text.isLine
  exact isLine_append.mpr
    ⟨e.isWord_opening.isLine, isLine_cons.mpr ⟨by decide, hcontent⟩⟩

theorem mem_join {c : Char} {l : List Char} (hc : c ∈ l) :
    ∀ {ls : List (List Char)}, l ∈ ls → c ∈ join [' '] ls
  | [k], hl => by
      rw [List.mem_singleton] at hl
      rwa [join, ← hl]
  | k :: m :: ls, hl => by
      rw [join, List.mem_append, List.mem_append]
      rcases List.mem_cons.mp hl with rfl | hl
      · exact Or.inl (Or.inl hc)
      · exact Or.inr (mem_join hc hl)

theorem Wrapped.isLine (w : Wrapped) : ∀ l ∈ w.rows, IsLine l := by
  intro l hl c hc
  refine w.entry.isLine_text c ?_
  rw [← w.whole]
  exact mem_join hc hl

/--
**A documentation comment is read back as what was written.**  The description comes back as it
was, with its indentation, its blank lines and whatever else stands in it, and so do the texts of
the entries, in whatever order they are written and at whatever spaces they are broken over lines,
whatever ends the lines and whatever blanks stand in front of their asterisks.
-/
theorem holds_parse_comment (s : Sheet) {ws : List Wrapped}
    (hws : (ws.map Wrapped.entry).Perm s.entries) (eol : LineEnd) (indent : Nat → Indent) :
    Holds (parse (comment eol indent (s.description.lines ++ ws.flatMap Wrapped.rows))) s := by
  have hlines : ∀ l ∈ s.description.lines ++ ws.flatMap Wrapped.rows, IsLine l := by
    rw [List.forall_mem_append, List.forall_mem_flatMap]
    exact ⟨s.description.isLine, fun w _ => w.isLine⟩
  obtain ⟨foot, hfoot, htexts⟩ := texts_comment eol indent hlines
  have hended : s.description.lines.map (trimEndWhere isBlank) = s.description.lines :=
    (List.map_congr_left s.description.ended).trans (List.map_id _)
  have hplain : ∀ l ∈ [] :: s.description.lines, blockStart? l = none :=
    List.forall_mem_cons.mpr ⟨rfl, fun l hl => blockStart?_eq_none (s.description.unopened l hl)⟩
  obtain ⟨hleading, hblocks⟩ := sections_wrapped hfoot ws
  have hsections := sections_plain hplain
    ((ws.flatMap Wrapped.rows).map (trimEndWhere isBlank) ++ foot)
  rw [List.map_append, hended, List.append_assoc] at htexts
  rw [List.cons_append] at hsections
  unfold parse
  rw [if_pos (isJavadoc_comment eol indent _), htexts, hsections]
  dsimp only
  rw [foldl_addBlock hblocks, List.cons_append, clean_description s.description hleading]
  exact holds_foldl_note hws

/-- What is said when nothing is said. -/
def Phrase.nothing : Phrase :=
  ⟨[], by decide +kernel, by decide +kernel⟩

def parcelId : ParamName × Phrase :=
  (⟨"id".toList, by decide +kernel, by decide +kernel⟩,
    ⟨"the number of the @parcel".toList, by decide +kernel, by decide +kernel⟩)

def parcelKind : ParamName × Phrase :=
  (⟨"{kind}".toList, by decide +kernel, by decide +kernel⟩, .nothing)

def parcelVersion : Phrase :=
  ⟨"2.0 * beta".toList, by decide +kernel, by decide +kernel⟩

/-- A sheet with an indented list, a line that begins with an asterisk, a parameter and a
deprecation of which nothing is said. -/
def parcelSheet : Sheet where
  description :=
    { lines := ["Finds a parcel.".toList, [], "  - by number, or".toList, "* by @ address.".toList]
      isLine := by decide +kernel
      ended := by decide +kernel
      unopened := by decide +kernel
      trimmed := by decide +kernel
      unbroken := by decide +kernel
      plain := by decide +kernel }
  params := [parcelId, parcelKind]
  distinct := by decide +kernel
  returns := none
  deprecated := some .nothing
  since := some parcelVersion

/-- The deprecation and the version first, and the texts broken over lines. -/
def parcelBlocks : List Wrapped :=
  [{ entry := .deprecated .nothing
     first := "@deprecated".toList
     others := [[]]
     whole := by decide +kernel
     unopened := by decide +kernel },
   { entry := .since parcelVersion
     first := "@since 2.0".toList
     others := ["* beta".toList]
     whole := by decide +kernel
     unopened := by decide +kernel },
   { entry := .param parcelId.1 parcelId.2
     first := "@param id".toList
     others := ["the number of".toList, "the @parcel".toList]
     whole := by decide +kernel
     unopened := by decide +kernel },
   { entry := .param parcelKind.1 parcelKind.2
     first := "@param {kind} ".toList
     others := []
     whole := by decide +kernel
     unopened := by decide +kernel }]

/-- A space before every other asterisk, a tab and two spaces before the others. -/
def staggered (n : Nat) : Indent :=
  if n % 2 = 0 then ⟨[' '], by decide⟩ else ⟨['\t', ' ', ' '], by decide⟩

theorem holds_parse_comment_parcel :
    (parcelBlocks.map Wrapped.entry).Perm parcelSheet.entries ∧
      Holds (parse (comment .returnFeed staggered
        (parcelSheet.description.lines ++ parcelBlocks.flatMap Wrapped.rows))) parcelSheet := by
  have horder : (parcelBlocks.map Wrapped.entry).Perm parcelSheet.entries :=
    @List.perm_append_comm _ ((parcelBlocks.take 2).map Wrapped.entry) _
  exact ⟨horder, holds_parse_comment parcelSheet horder .returnFeed staggered⟩

end Javadoc

end ServiceAtlas
