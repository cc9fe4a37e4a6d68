/-
A map is read back from its lines.

The text of a map is its lines, and a line that draws a box can be told from all others by its
indentation and its bracket, a line that opens a frame by its keyword.  So the boxes of a text and
the identifiers of its frames can be read off it without knowing what it was made from.  Provided
that no path and no parameter has a line break in it, what is read off the text of a map are its
boxes with their labels (`boxesIn_endpointMap`), and one frame for each group
(`framesIn_endpointMap`).
-/
import Mathlib.Algebra.GroupWithZero.Nat
import ServiceAtlas.Proofs.Allocation
import ServiceAtlas.Proofs.Dotted

namespace ServiceAtlas

namespace Text

theorem length_pieces (sep : Char) (cs : List Char) :
    (pieces sep cs).length = cs.count sep + 1 := by
  induction cs with
  | nil => rfl
  | cons c cs ih =>
      by_cases h : c = sep
      · simp [pieces, h, ih]
      · obtain ⟨p, ps, hp⟩ := List.exists_cons_of_ne_nil (pieces_ne_nil sep cs)
        rw [hp] at ih
        simpa [pieces, h, hp] using ih

/-- Every character but the separator is in one of the pieces. -/
theorem mem_pieces {sep c : Char} (hc : c ≠ sep) {cs : List Char} (hmem : c ∈ cs) :
    ∃ p ∈ pieces sep cs, c ∈ p := by
  induction cs with
  | nil => cases hmem
  | cons d cs ih =>
      obtain ⟨p, ps, hp⟩ := List.exists_cons_of_ne_nil (pieces_ne_nil sep cs)
      rcases List.mem_cons.mp hmem with rfl | hrest
      · exact ⟨c :: p, by simp [pieces, hc, hp], List.mem_cons_self⟩
      · obtain ⟨q, hq, hcq⟩ := ih hrest
        by_cases hd : d = sep
        · exact ⟨q, by simp [pieces, hd, hq], hcq⟩
        · rw [hp] at hq
          rcases List.mem_cons.mp hq with rfl | hq
          · exact ⟨d :: q, by simp [pieces, hd, hp], List.mem_cons_of_mem d hcq⟩
          · exact ⟨q, by simp [pieces, hd, hp, hq], hcq⟩

theorem not_mem_replaceChar {c old : Char} {new cs : List Char} (hnew : c ∉ new)
    (h : c = old ∨ c ∉ cs) : c ∉ replaceChar old new cs := by
  intro hc
  obtain ⟨d, hd, hmem⟩ := List.mem_flatMap.mp hc
  split at hmem
  · exact hnew hmem
  · rename_i hne
    obtain rfl := List.mem_singleton.mp hmem
    rcases h with rfl | h
    · exact hne rfl
    · exact h hd

end Text

namespace Report

/-! ### Reading lines -/

/-- The lines of a text.  Behind the last line break there is one more, which is empty. -/
def linesOf (text : String) : List (List Char) :=
  Text.pieces '\n' text.toList

/-- The box that a line draws: four blanks, the identifier, and the label in quotes and square
brackets. -/
def boxOn? : List Char → Option Box
  | ' ' :: ' ' :: ' ' :: ' ' :: rest =>
    match Text.cut '[' rest with
    | (id, some ('"' :: behind)) =>
      match Text.cut '"' behind with
      | (label, some [']']) => some ⟨String.ofList id, String.ofList label⟩
      | _ => none
    | _ => none
  | _ => none

/-- The identifier of the frame that a line opens: two blanks, the keyword, and the identifier. -/
def frameOn? (line : List Char) : Option String :=
  (line.dropPrefix? "  subgraph ".toList).map String.ofList

/-- The boxes that a text draws, in order. -/
def boxesIn (text : String) : List Box :=
  (linesOf text).filterMap boxOn?

/-- The identifiers of the frames that a text opens, in order. -/
def framesIn (text : String) : List String :=
  (linesOf text).filterMap frameOn?

theorem linesOf_linesText :
    ∀ {ls : List String}, ls ≠ [] → (∀ l ∈ ls, '\n' ∉ l.toList) →
      linesOf (linesText ls) = ls.map String.toList ++ [[]]
  | [], hne, _ => absurd rfl hne
  | [l], _, h => by
      have hl := h l List.mem_cons_self
      show Text.pieces '\n' (l ++ "\n").toList = _
      rw [String.toList_append]
      show Text.pieces '\n' (l.toList ++ '\n' :: []) = _
      rw [Text.pieces_append, Text.pieces_of_not_mem hl]
      rfl
  | l :: l' :: ls, _, h => by
      have hl := h l List.mem_cons_self
      have hrest := linesOf_linesText (List.cons_ne_nil l' ls)
        fun k hk => h k (List.mem_cons_of_mem l hk)
      have htext : (linesText (l :: l' :: ls)).toList
          = l.toList ++ '\n' :: (linesText (l' :: ls)).toList := by
        simp [linesText, Text.joined]
      rw [linesOf, htext, Text.pieces_append, Text.pieces_of_not_mem hl]
      exact congrArg (l.toList :: ·) hrest

/-- The number of lines of a text that have a line break behind them. -/
def lineCount (text : String) : Nat :=
  text.toList.count '\n'

/-- Line breaks inside lines make further lines. -/
theorem lineCount_linesText : ∀ {ls : List String}, ls ≠ [] →
    lineCount (linesText ls) = ls.length + (ls.map lineCount).sum
  | [], hne => absurd rfl hne
  | [l], _ => by
      have htext : (linesText [l]).toList = l.toList ++ ['\n'] := String.toList_append
      rw [lineCount, htext, List.count_append]
      simp [lineCount, Nat.add_comm]
  | l :: l' :: ls, _ => by
      have hrest := lineCount_linesText (List.cons_ne_nil l' ls)
      have htext : (linesText (l :: l' :: ls)).toList
          = l.toList ++ '\n' :: (linesText (l' :: ls)).toList := by
        simp [linesText, Text.joined]
      rw [lineCount, htext, List.count_append, List.count_cons_self, ← lineCount, ← lineCount, hrest]
      simp only [List.length_cons, List.map_cons, List.sum_cons]
      omega

theorem lineCount_eq_zero_iff {text : String} : lineCount text = 0 ↔ '\n' ∉ text.toList :=
  List.count_eq_zero

/-- The box can be read off its line. -/
structure Box.Legible (b : Box) : Prop where
  id : IsIdentifier b.id
  quote : '"' ∉ b.label.toList
  lineBreak : '\n' ∉ b.label.toList

theorem not_mem_of_isIdentifier {text : String} (h : IsIdentifier text) {c : Char}
    (hc : isIdChar c = false) : c ∉ text.toList := by
  intro hmem
  rw [h c hmem] at hc
  cases hc

theorem boxOn?_line {b : Box} (h : b.Legible) : boxOn? b.line.toList = some b := by
  have hline : b.line.toList
      = ' ' :: ' ' :: ' ' :: ' ' :: (b.id.toList ++ '[' :: '"' :: (b.label.toList ++ '"' :: [']'])) := by
    simp [Box.line]
  rw [hline, boxOn?, Text.cut_append (not_mem_of_isIdentifier h.id rfl)]
  simp only [Text.cut_append h.quote, String.ofList_toList]

theorem frameOn?_line (b : Box) : frameOn? b.line.toList = none := by
  simp only [Box.line, String.toList_append, List.append_assoc]
  rfl

theorem boxOn?_subgraph (id : String) : boxOn? ("  subgraph " ++ id).toList = none := by
  rw [String.toList_append]
  rfl

theorem frameOn?_subgraph (id : String) : frameOn? ("  subgraph " ++ id).toList = some id := by
  rw [frameOn?, String.toList_append, List.dropPrefix?_append_of_beq _ (beq_self_eq_true _),
    Option.map_some, String.ofList_toList]

/-! ### Reading a map -/

/-- The lines of frames and of the opening line have no line breaks in them. -/
theorem lineBreak_not_mem {fs : List Frame} (h : ∀ f ∈ fs, ∀ b ∈ f.boxes, b.Legible) :
    ∀ l ∈ "flowchart TB" :: fs.flatMap Frame.lines, '\n' ∉ l.toList := by
  intro l hl
  rcases List.mem_cons.mp hl with rfl | hl
  · decide
  obtain ⟨f, hf, hl⟩ := List.mem_flatMap.mp hl
  simp only [Frame.lines, List.mem_append, List.mem_cons, List.mem_map, List.not_mem_nil,
    or_false] at hl
  rcases hl with ((rfl | rfl) | ⟨b, hb, rfl⟩) | (rfl | rfl)
  · rw [String.toList_append, List.mem_append, not_or]
    exact ⟨by decide, not_mem_of_isIdentifier (isIdentifier_sanitize _) rfl⟩
  · decide
  · have hid := not_mem_of_isIdentifier (h f hf b hb).id (c := '\n') rfl
    have hlabel := (h f hf b hb).lineBreak
    simp [Box.line, hid, hlabel]
  · decide
  · decide

/-- A reader that passes over the fixed lines of a map reads the openings of frames and the
lines of boxes. -/
theorem filterMap_linesOf {γ : Type} {read : List Char → Option γ}
    (hfixed : ∀ l ∈ ["flowchart TB", "    direction TB", "  end", ""], read l.toList = none)
    {fs : List Frame} (h : ∀ f ∈ fs, ∀ b ∈ f.boxes, b.Legible) :
    (linesOf (linesText ("flowchart TB" :: fs.flatMap Frame.lines))).filterMap read
      = fs.flatMap fun f => (read ("  subgraph " ++ sanitize f.group).toList).toList
          ++ f.boxes.filterMap fun b => read b.line.toList := by
  simp only [List.forall_mem_cons] at hfixed
  obtain ⟨hchart, hdirection, hend, hempty, -⟩ := hfixed
  have hframe (f : Frame) : (f.lines.map String.toList).filterMap read
      = (read ("  subgraph " ++ sanitize f.group).toList).toList
          ++ f.boxes.filterMap fun b => read b.line.toList := by
    have hopening : ["  subgraph " ++ sanitize f.group, "    direction TB"].filterMap
        (fun l => read l.toList) = (read ("  subgraph " ++ sanitize f.group).toList).toList := by
      rw [List.filterMap_cons, List.filterMap_cons, hdirection]
      cases read ("  subgraph " ++ sanitize f.group).toList <;> rfl
    have hclosing : ["  end", ""].filterMap (fun l => read l.toList) = [] := by
      simp only [List.filterMap_cons, hend, hempty, List.filterMap_nil]
    have hboxes : (f.boxes.map Box.line).filterMap (fun l => read l.toList)
        = f.boxes.filterMap fun b => read b.line.toList :=
      List.filterMap_map ..
    rw [List.filterMap_map]
    show (Frame.lines f).filterMap (fun l => read l.toList) = _
    rw [Frame.lines, List.filterMap_append, List.filterMap_append, hopening, hboxes, hclosing,
      List.append_nil]
  have hlast : [([] : List Char)].filterMap read = [] := by
    rw [List.filterMap_cons, show read [] = none from hempty, List.filterMap_nil]
  rw [linesOf_linesText (List.cons_ne_nil _ _) (lineBreak_not_mem h), List.filterMap_append, hlast,
    List.append_nil, List.map_cons, List.filterMap_cons, hchart, List.map_flatMap,
    List.filterMap_flatMap]
  exact List.flatMap_congr fun f _ => hframe f

/-- The boxes that are read off frames are their boxes. -/
theorem boxesIn_frames {fs : List Frame} (h : ∀ f ∈ fs, ∀ b ∈ f.boxes, b.Legible) :
    boxesIn (linesText ("flowchart TB" :: fs.flatMap Frame.lines)) = fs.flatMap Frame.boxes := by
  rw [boxesIn, filterMap_linesOf (by decide) h]
  refine List.flatMap_congr fun f hf => ?_
  rw [boxOn?_subgraph, Option.toList_none, List.nil_append]
  exact (List.filterMap_congr fun b hb => boxOn?_line (h f hf b hb)).trans List.filterMap_some

/-- One frame is read for each frame, under the name of its group. -/
theorem framesIn_frames {fs : List Frame} (h : ∀ f ∈ fs, ∀ b ∈ f.boxes, b.Legible) :
    framesIn (linesText ("flowchart TB" :: fs.flatMap Frame.lines))
      = fs.map fun f => sanitize f.group := by
  have hboxes (f : Frame) : (f.boxes.filterMap fun b => frameOn? b.line.toList) = [] :=
    List.filterMap_eq_nil_iff.mpr fun b _ => frameOn?_line b
  rw [framesIn, filterMap_linesOf (by decide) h, List.map_eq_flatMap]
  refine List.flatMap_congr fun f _ => ?_
  rw [frameOn?_subgraph, hboxes f]
  rfl

/-! ### The frames of a map -/

/-- The path and the names of the parameters have no line breaks in them. -/
def IsOneLine (e : Endpoint) : Prop :=
  '\n' ∉ e.path.toList ∧ ∀ p ∈ e.parameters, '\n' ∉ p.name.toList

instance : DecidablePred IsOneLine :=
  fun _ => inferInstanceAs (Decidable (_ ∧ _))

theorem quote_not_mem_label (e : Endpoint) : '"' ∉ (label e).toList := by
  rw [label, String.toList_ofList]
  exact Text.not_mem_replaceChar (by decide) (Or.inl rfl)

theorem lineBreak_not_mem_label {e : Endpoint} (h : IsOneLine e) : '\n' ∉ (label e).toList := by
  obtain ⟨hpath, hparameters⟩ := h
  have hverb : '\n' ∉ e.verb.name.toList := by cases e.verb <;> decide
  have hparameter : ∀ p ∈ e.parameters, '\n' ∉ (labelParameter p).toList := by
    intro p hp
    have hplace : '\n' ∉ p.place.word.toList := by cases p.place <;> decide
    have hrequired : '\n' ∉ (if p.required then " (req)" else "").toList := by
      split <;> decide
    simp only [labelParameter, String.toList_append, List.mem_append, not_or]
    exact ⟨⟨⟨hparameters p hp, by decide⟩, hplace⟩, hrequired⟩
  have hlist : '\n' ∉ (if e.parameters.isEmpty then ""
      else "<br/>Params: " ++ Text.joined ", " (e.parameters.map labelParameter)).toList := by
    split
    · decide
    · rw [String.toList_append, List.mem_append, Text.mem_joined_iff (by decide), not_or]
      refine ⟨by decide, fun ⟨s, hs, hbreak⟩ => ?_⟩
      exact (List.forall_mem_map.mpr hparameter : ∀ s ∈ _, '\n' ∉ s.toList) s hs hbreak
  have hraw : '\n' ∉ (rawLabel e).toList := by
    simp only [rawLabel, String.toList_append, List.mem_append, not_or]
    exact ⟨⟨⟨hverb, by decide⟩, hpath⟩, hlist⟩
  rw [label, String.toList_ofList]
  exact Text.not_mem_replaceChar (by decide) (Or.inr hraw)

theorem labels_boxes :
    ∀ (es : List Endpoint) (taken : List String),
      (boxes taken es).1.map Box.label = es.map label := by
  intro es
  induction es with
  | nil => intro taken; rfl
  | cons e rest ih => intro taken; exact congrArg (label e :: ·) (ih _)

/-- The boxes of a map show the endpoints in the order in which they are drawn. -/
theorem labels_frames (es : List Endpoint) :
    ∀ (groups taken : List String),
      ((frames es taken groups).flatMap Frame.boxes).map Box.label
        = (groups.flatMap (members es)).map label := by
  intro groups
  induction groups with
  | nil => intro taken; rfl
  | cons group rest ih =>
      intro taken
      rw [List.flatMap_cons, List.map_append, ← ih, ← labels_boxes (members es group) taken]
      exact List.map_append

theorem groups_frames (es : List Endpoint) :
    ∀ (groups taken : List String), (frames es taken groups).map Frame.group = groups := by
  intro groups
  induction groups with
  | nil => intro taken; rfl
  | cons group rest ih => intro taken; exact congrArg (group :: ·) (ih _)

theorem ids_frames (fs : List Frame) : (fs.flatMap Frame.boxes).map Box.id = frameIds fs :=
  List.map_flatMap

/-- The boxes of a map can be read off their lines. -/
theorem legible_of_isOneLine {es : List Endpoint} (h : ∀ e ∈ es, IsOneLine e) :
    ∀ f ∈ frames es [] (groupNames es), ∀ b ∈ f.boxes, b.Legible := by
  intro f hf b hb
  have hmem : b ∈ (frames es [] (groupNames es)).flatMap Frame.boxes :=
    List.mem_flatMap.mpr ⟨f, hf, hb⟩
  have hid : b.id ∈ mapIds es := by
    rw [mapIds, ← ids_frames]
    exact List.mem_map_of_mem hmem
  have hlabel : b.label ∈ (drawn es).map label := by
    rw [drawn, ← labels_frames es (groupNames es) []]
    exact List.mem_map_of_mem hmem
  obtain ⟨e, he, hlabel⟩ := List.mem_map.mp hlabel
  have hline := h e ((drawn_perm es).mem_iff.mp he)
  exact ⟨isIdentifier_of_mem_mapIds hid, hlabel ▸ quote_not_mem_label e,
    hlabel ▸ lineBreak_not_mem_label hline⟩

/-- **The boxes that a map draws are read off its text.** -/
theorem boxesIn_endpointMap {es : List Endpoint} (h : ∀ e ∈ es, IsOneLine e) :
    (boxesIn (endpointMap es)).map Box.id = mapIds es ∧
      (boxesIn (endpointMap es)).map Box.label = (drawn es).map label := by
  rw [endpointMap, boxesIn_frames (legible_of_isOneLine h)]
  exact ⟨ids_frames _, labels_frames es _ _⟩

/-- **The frames that a map opens are read off its text.** -/
theorem framesIn_endpointMap {es : List Endpoint} (h : ∀ e ∈ es, IsOneLine e) :
    framesIn (endpointMap es) = (groupNames es).map sanitize := by
  have hgroups : ((frames es [] (groupNames es)).map Frame.group).map sanitize
      = (groupNames es).map sanitize := by
    rw [groups_frames]
  rw [List.map_map] at hgroups
  rw [endpointMap, framesIn_frames (legible_of_isOneLine h)]
  exact hgroups

end Report

end ServiceAtlas
