/-
A map shows every endpoint once, in the frame of its group.

The frames are read off the text of a map line by line: a frame begins with the line that opens it
and the line that gives its direction, goes on with the lines of its boxes, and ends with its
closing line and an empty one.  `panelsIn?` accepts no other text, so what it returns accounts for
every line of the map.  `charts_endpointMap` says what that is: a frame for each group, the groups
ascending, and in each frame one box for each endpoint of the group, in the order of the endpoints.

The reader goes forward over the lines, and the frames of a map come one behind another, so the
lemmas about one frame are stated with whatever lines follow it.
-/
import ServiceAtlas.Proofs.MapReading

namespace ServiceAtlas

namespace Report

/-! ### Groups in order -/

theorem eraseReps_sublist {α : Type} [DecidableEq α] : ∀ xs : List α, xs.eraseReps.Sublist xs
  | [] => .slnil
  | [a] => .refl [a]
  | a :: b :: xs => by
      have hrest := eraseReps_sublist (b :: xs)
      rw [eraseReps_cons_cons]
      split
      · exact hrest.cons a
      · exact hrest.cons_cons a

/-- The groups of a map ascend. -/
theorem groupNames_ascending (es : List Endpoint) : (groupNames es).Pairwise (· < ·) := by
  have hsorts := sortsBy_text (id : String → String)
  have hsorted : (groupNames es).Pairwise fun a b => decide (a ≤ b) = true :=
    (List.pairwise_mergeSort hsorts.trans hsorts.total (groups es)).sublist (eraseReps_sublist _)
  exact (hsorted.and (nodup_groupNames es)).imp fun ⟨hle, hne⟩ =>
    Std.lt_of_le_of_ne (of_decide_eq_true hle) hne

/-! ### Reading frames -/

/-- A frame as it is read: the identifier it is opened with, and its boxes. -/
structure Panel where
  id : String
  boxes : List Box

mutual

/-- The frames that lines draw one behind another, if they draw nothing else. -/
def panelsOn? : List (List Char) → Option (List Panel)
  | opening :: direction :: rest =>
    match frameOn? opening with
    | some id =>
      if direction = "    direction TB".toList then panelsInside? id [] rest else none
    | none => none
  | [_] => none
  | [] => some []

/-- The frames that lines draw where a frame has been opened and boxes of it have been drawn. -/
def panelsInside? (id : String) (drawn : List Box) : List (List Char) → Option (List Panel)
  | line :: rest =>
    match boxOn? line with
    | some b => panelsInside? id (drawn ++ [b]) rest
    | none =>
      match rest with
      | gap :: behind =>
        if line = "  end".toList ∧ gap = [] then (panelsOn? behind).map (⟨id, drawn⟩ :: ·)
        else none
      | [] => none
  | [] => none

end

/-- The frames of a chart, if the text is one. -/
def panelsIn? (text : String) : Option (List Panel) :=
  match linesOf text with
  | chart :: rest =>
    if chart = "flowchart TB".toList ∧ rest.getLast? = some [] then panelsOn? rest.dropLast
    else none
  | [] => none

/-- A frame as it is read. -/
def Frame.panel (f : Frame) : Panel :=
  ⟨sanitize f.group, f.boxes⟩

theorem panelsInside?_box (id : String) (drawn : List Box) {b : Box} (h : b.Legible)
    (rest : List (List Char)) :
    panelsInside? id drawn (b.line.toList :: rest) = panelsInside? id (drawn ++ [b]) rest := by
  rw [panelsInside?.eq_def]
  simp only [boxOn?_line h]

theorem panelsInside?_end (id : String) (drawn : List Box) (rest : List (List Char)) :
    panelsInside? id drawn ("  end".toList :: [] :: rest)
      = (panelsOn? rest).map (⟨id, drawn⟩ :: ·) := by
  have hend : boxOn? "  end".toList = none := rfl
  rw [panelsInside?.eq_def]
  simp only [hend, and_self, if_true]

theorem panelsInside?_boxes (id : String) (rest : List (List Char)) :
    ∀ {bs : List Box} (drawn : List Box), (∀ b ∈ bs, b.Legible) →
      panelsInside? id drawn (bs.map (·.line.toList) ++ rest)
        = panelsInside? id (drawn ++ bs) rest := by
  intro bs
  induction bs with
  | nil => intro drawn _; simp
  | cons b bs ih =>
      intro drawn h
      rw [List.forall_mem_cons] at h
      rw [List.map_cons, List.cons_append, panelsInside?_box id drawn h.1, ih _ h.2,
        List.append_assoc]
      rfl

/-- One frame is read off its lines, whatever lines follow. -/
theorem panelsOn?_lines {f : Frame} (h : ∀ b ∈ f.boxes, b.Legible) (rest : List (List Char)) :
    panelsOn? (f.lines.map String.toList ++ rest) = (panelsOn? rest).map (f.panel :: ·) := by
  have hlines : f.lines.map String.toList ++ rest
      = ("  subgraph " ++ sanitize f.group).toList :: "    direction TB".toList
        :: (f.boxes.map (·.line.toList) ++ "  end".toList :: [] :: rest) := by
    simp [Frame.lines]
  rw [hlines, panelsOn?, frameOn?_subgraph]
  show (if "    direction TB".toList = "    direction TB".toList
    then panelsInside? _ [] _ else none) = _
  rw [if_pos rfl, panelsInside?_boxes _ _ [] h, List.nil_append, panelsInside?_end]
  rfl

theorem panelsOn?_frames {fs : List Frame} (h : ∀ f ∈ fs, ∀ b ∈ f.boxes, b.Legible) :
    panelsOn? ((fs.flatMap Frame.lines).map String.toList) = some (fs.map Frame.panel) := by
  induction fs with
  | nil => rfl
  | cons f fs ih =>
      rw [List.forall_mem_cons] at h
      rw [List.flatMap_cons, List.map_append, panelsOn?_lines h.1, ih h.2]
      rfl

/-- **The frames of a map are read off its text.** -/
theorem panelsIn?_endpointMap {es : List Endpoint} (h : ∀ e ∈ es, IsOneLine e) :
    panelsIn? (endpointMap es) = some ((frames es [] (groupNames es)).map Frame.panel) := by
  have hlegible := legible_of_isOneLine h
  have hlines := linesOf_linesText (List.cons_ne_nil _ _) (lineBreak_not_mem hlegible)
  rw [List.map_cons, List.cons_append] at hlines
  rw [panelsIn?, endpointMap, hlines]
  show (if _ then panelsOn? _ else none) = _
  rw [if_pos ⟨rfl, List.getLast?_concat⟩, List.dropLast_concat, panelsOn?_frames hlegible]

/-! ### What frames show -/

/-- A text with every double quote spelled out. -/
def spelledOut (text : String) : String :=
  String.ofList (Text.replaceChar '"' "#quot;".toList text.toList)

/-- The box shows the endpoint: verb and path, and its parameters if it has any, the required ones
marked. -/
structure Depicts (e : Endpoint) (b : Box) : Prop where
  id : IsIdentifier b.id
  quote : '"' ∉ b.label.toList
  plain : e.parameters = [] → b.label = spelledOut (e.verb.name ++ " " ++ e.path)
  listed : e.parameters ≠ [] → b.label = spelledOut (e.verb.name ++ " " ++ e.path
    ++ "<br/>Params: " ++ Text.joined ", " (e.parameters.map fun p =>
      p.name ++ ":" ++ p.place.word ++ if p.required then " (req)" else ""))

theorem depicts_of_label {e : Endpoint} {b : Box} (hb : b.Legible) (hlabel : b.label = label e) :
    Depicts e b where
  id := hb.id
  quote := hb.quote
  plain hnone := by
    rw [hlabel, label, rawLabel, hnone]
    show spelledOut (_ ++ "") = _
    rw [String.append_empty]
  listed hsome := by
    have hnonempty : e.parameters.isEmpty = false := by simpa using hsome
    rw [hlabel, label, rawLabel, hnonempty]
    show spelledOut (_ ++ ("<br/>Params: " ++ _)) = _
    rw [← String.append_assoc]
    rfl

/-- The boxes of a frame are labelled with the endpoints of its group, in order. -/
theorem labels_of_mem_frames {es : List Endpoint} :
    ∀ (groups taken : List String), ∀ f ∈ frames es taken groups,
      f.boxes.map Box.label = (members es f.group).map label := by
  intro groups
  induction groups with
  | nil => intro taken f hf; cases hf
  | cons group rest ih =>
      intro taken f hf
      rcases List.mem_cons.mp hf with rfl | hf
      · exact labels_boxes (members es group) taken
      · exact ih _ f hf

theorem depicts_of_mem_frames {es : List Endpoint} (h : ∀ e ∈ es, IsOneLine e) :
    ∀ f ∈ frames es [] (groupNames es),
      List.Forall₂ Depicts (members es f.group) f.boxes := by
  intro f hf
  have hequal : List.Forall₂ Eq (f.boxes.map Box.label) ((members es f.group).map label) := by
    rw [List.forall₂_eq_eq_eq]
    exact labels_of_mem_frames _ _ f hf
  have hlabels : List.Forall₂ (fun b e => b.label = label e) f.boxes (members es f.group) :=
    List.forall₂_map_right_iff.mp (List.forall₂_map_left_iff.mp hequal)
  have hboxes := (List.forall₂_and_left _ _).mpr ⟨legible_of_isOneLine h f hf, hlabels⟩
  exact hboxes.flip.imp fun _ _ ⟨hlegible, hlabel⟩ => depicts_of_label hlegible hlabel

/-- Frames that are read off a text show endpoints by their groups. -/
structure Charts (es : List Endpoint) (names : List String) (panels : List Panel) : Prop where
  ascending : names.Pairwise (· < ·)
  occurring : ∀ g, g ∈ names ↔ g ∈ groups es
  /-- One frame is opened for each group. -/
  opened : panels.map Panel.id = names.map sanitize
  /-- The frame of a group has one box for each of its endpoints, in their order. -/
  shown : List.Forall₂ (fun g (p : Panel) => List.Forall₂ Depicts
    (((es.zip (groups es)).filter fun e => e.2 = g).map Prod.fst) p.boxes) names panels
  /-- Taken together the boxes show every endpoint once. -/
  once : ∃ order : List Endpoint, order.Perm es ∧
    List.Forall₂ Depicts order (panels.flatMap Panel.boxes)

theorem charts_frames {es : List Endpoint} (h : ∀ e ∈ es, IsOneLine e) :
    Charts es (groupNames es) ((frames es [] (groupNames es)).map Frame.panel) := by
  have hgroups := groups_frames es (groupNames es) []
  have hshown : List.Forall₂ (fun g (p : Panel) => List.Forall₂ Depicts (members es g) p.boxes)
      (groupNames es) ((frames es [] (groupNames es)).map Frame.panel) := by
    rw [List.forall₂_map_right_iff]
    conv => arg 2; rw [← hgroups]
    rw [List.forall₂_map_left_iff, List.forall₂_same]
    exact depicts_of_mem_frames h
  constructor
  case ascending => exact groupNames_ascending es
  case occurring => exact fun g => mem_groupNames
  case opened =>
    conv => rhs; rw [← hgroups]
    rw [List.map_map, List.map_map]
    rfl
  case shown => exact hshown
  case once => exact ⟨drawn es, drawn_perm es, List.rel_flatMap hshown fun _ _ hpanel => hpanel⟩

/-! ### The lines of a map -/

theorem length_lines_frames (fs : List Frame) :
    (fs.flatMap Frame.lines).length = 4 * fs.length + (fs.flatMap Frame.boxes).length := by
  induction fs with
  | nil => rfl
  | cons f fs ih =>
      rw [List.flatMap_cons, List.flatMap_cons, List.length_append, List.length_append, ih]
      simp only [Frame.lines, List.length_append, List.length_cons, List.length_map, List.length_nil]
      omega

/--
**A map shows every endpoint once, in the frame of its group.**  The text is a chart and nothing
else, its frames are the groups in ascending order, and the boxes of a frame are the endpoints of
its group in their order.  Besides the line of each endpoint it has four lines for each group and
one for the whole.
-/
theorem charts_endpointMap {es : List Endpoint} (h : ∀ e ∈ es, IsOneLine e) :
    ∃ names panels, panelsIn? (endpointMap es) = some panels ∧ Charts es names panels ∧
      lineCount (endpointMap es) = 1 + 4 * names.length + es.length := by
  refine ⟨groupNames es, _, panelsIn?_endpointMap h, charts_frames h, ?_⟩
  have hboxes : ((frames es [] (groupNames es)).flatMap Frame.boxes).length = es.length := by
    have hlabels := congrArg List.length (labels_frames es (groupNames es) [])
    rw [List.length_map, List.length_map] at hlabels
    exact hlabels.trans (drawn_perm es).length_eq
  have hframes : (frames es [] (groupNames es)).length = (groupNames es).length := by
    rw [← List.length_map (f := Frame.group), groups_frames]
  have hbreaks : (("flowchart TB" :: (frames es [] (groupNames es)).flatMap Frame.lines).map
      lineCount).sum = 0 := by
    refine List.sum_eq_zero_iff_forall_eq_nat.mpr (List.forall_mem_map.mpr fun l hl => ?_)
    exact lineCount_eq_zero_iff.mpr (lineBreak_not_mem (legible_of_isOneLine h) l hl)
  rw [endpointMap, lineCount_linesText (List.cons_ne_nil _ _), hbreaks, List.length_cons,
    length_lines_frames, hframes, hboxes]
  omega

/-- Endpoints of two groups.  A path has quotes in it, and a group has a line break. -/
def parcels : List Endpoint :=
  [{ stall "/parcels/\"new\"" with
      tags := ["Parcels"]
      parameters := [⟨"size", .query, false, "", default⟩, ⟨"to", .query, true, "", default⟩] },
    { stall "/users" with tags := ["Back\nOffice"] },
    { stall "/parcels" with tags := ["Parcels"] }]

theorem charts_endpointMap_parcels :
    (∀ e ∈ parcels, IsOneLine e) ∧ ∃ names panels,
      panelsIn? (endpointMap parcels) = some panels ∧ Charts parcels names panels ∧
        lineCount (endpointMap parcels) = 1 + 4 * names.length + 3 := by
  have hlines : ∀ e ∈ parcels, IsOneLine e := by decide
  exact ⟨hlines, charts_endpointMap hlines⟩

end Report

end ServiceAtlas
