/-
What writing does to a tree of files.

A file is written where its path leads to, and the directories that are made for it lie on
the way there.  A tree does not list all of its directories, though: whatever a known place
leads through is one.  A new file could therefore make directories that nobody asked for.
It does not, because every place above the end of a path is above the start of the path, and
so a directory already, or lies on the way itself; `prefix_descend` is that fact, and it
holds for paths that lead back up as well.

`Writes` says what is written and where, and follows the representation;
`Writes.entry?_written` and `Writes.entry?_elsewhere` read off it what has changed for someone
who looks at the tree.
-/
import ServiceAtlas.FileTree
import ServiceAtlas.Proofs.OrderedMap

namespace ServiceAtlas

namespace FilePath

/-- The path is in its short form: every part of it leads on. -/
def Short (p : FilePath) : Prop :=
  ∀ part ∈ p.parts, part ≠ "" ∧ part ≠ "."

theorem short_ofText (text : String) : (ofText text).Short := by
  intro part hpart
  obtain ⟨cs, hcs, rfl⟩ := List.mem_map.mp hpart
  have hkept := (List.mem_filter.mp hcs).2
  rw [Bool.and_eq_true, Bool.not_eq_true', decide_eq_true_eq] at hkept
  refine ⟨fun hempty => ?_, fun hdot => hkept.2 ?_⟩
  · rw [String.ofList_eq_empty_iff] at hempty
    simp [hempty] at hkept
  · simpa using congrArg String.toList hdot

theorem Short.parent {p : FilePath} (h : p.Short) : p.parent.Short :=
  fun part hpart => h part (List.dropLast_subset _ hpart)

theorem Short.append {p : FilePath} (h : p.Short) {parts : List String}
    (hparts : ∀ part ∈ parts, part ≠ "" ∧ part ≠ ".") : (p.append parts).Short := by
  intro part hpart
  exact (List.mem_append.mp hpart).elim (h part) (hparts part)

end FilePath

namespace FileTree

variable {t t' t'' : FileTree} {here place : FilePlace} {path : FilePath}

/-! ### Where parts lead -/

theorem descend_cons (here : FilePlace) (part : String) (parts : List String) :
    descend here (part :: parts)
      = descend (if part = FilePath.up then here.dropLast else here ++ [part]) parts :=
  rfl

/-- A place above the one that parts lead to is above the place where they begin, or some of
the parts lead to it. -/
theorem prefix_descend :
    ∀ (parts : List String) {here place : FilePlace}, place <+: descend here parts →
      place <+: here ∨ ∃ lead, lead <+: parts ∧ place = descend here lead := by
  intro parts
  induction parts with
  | nil => intro here place h; exact Or.inl h
  | cons part rest ih =>
      intro here place h
      rw [descend_cons] at h
      rcases ih h with hstep | ⟨lead, hlead, hplace⟩
      · split at hstep
        · exact Or.inl (hstep.trans (List.dropLast_prefix here))
        · rename_i hdown
          rcases List.prefix_concat_iff.mp hstep with hhere | habove
          · refine Or.inr ⟨[part], by simp, ?_⟩
            rw [descend_cons, if_neg hdown]
            exact hhere
          · exact Or.inl habove
      · exact Or.inr ⟨part :: lead, List.cons_prefix_cons.mpr ⟨rfl, hlead⟩, hplace⟩

/-- A part leads on from a directory, which has to be searched unless the part is empty. -/
theorem step_eq_ok_iff {part : String} :
    t.step here part = .ok place ↔
      t.entry? here = some .directory ∧
        (part = "" ∨ t.allows .search here = true ∧ byteLength part ≤ maxNameBytes) ∧
        place = stepTo here part := by
  have hself (hempty : part = "") : stepTo here part = here := by simp [stepTo, hempty]
  unfold step
  split
  · rename_i hnone
    simp [hnone]
  · rename_i content hfile
    simp [hfile]
  · rename_i hdirectory
    rw [hdirectory]
    rw [and_iff_right rfl]
    by_cases hempty : part = ""
    · rw [if_pos (by simpa using hempty), hself hempty, Except.ok.injEq, eq_comm]
      exact (and_iff_right (.inl hempty)).symm
    · rw [if_neg (by simpa using hempty), or_iff_right hempty]
      by_cases hsearch : t.allows .search here = true
      · rw [if_neg (by simp [hsearch]), and_iff_right hsearch]
        split
        · rename_i hlong
          exact iff_of_false nofun fun h => absurd h.1 (Nat.not_le_of_lt hlong)
        · rename_i hshort
          rw [and_iff_right (Nat.le_of_not_lt hshort), Except.ok.injEq, eq_comm]
      · rw [if_pos (by simpa using hsearch)]
        exact iff_of_false nofun fun h => absurd h.1.1 hsearch

/-- Parts lead on if the first one does and the others do from where it leads to. -/
theorem follow_cons_eq_ok {part : String} {parts : List String} :
    t.follow here (part :: parts) = .ok place ↔
      t.step here part = .ok (stepTo here part) ∧
        t.follow (stepTo here part) parts = .ok place := by
  rw [follow]
  cases hstep : t.step here part with
  | error f => exact iff_of_false nofun fun h => nomatch h.1
  | ok next =>
      obtain ⟨-, -, rfl⟩ := step_eq_ok_iff.mp hstep
      exact (and_iff_right rfl).symm

/-- Parts that lead on lead to where they would if nothing were in their way. -/
theorem follow_eq_ok :
    ∀ (parts : List String) {here : FilePlace}, (∀ part ∈ parts, part ≠ "" ∧ part ≠ ".") →
      t.follow here parts = .ok place → place = descend here parts := by
  intro parts
  induction parts with
  | nil =>
      intro here _ h
      cases h
      rfl
  | cons part rest ih =>
      intro here hparts h
      obtain ⟨⟨hempty, hdot⟩, hrest⟩ := List.forall_mem_cons.mp hparts
      have hleads : stepTo here part
          = if part = FilePath.up then here.dropLast else here ++ [part] :=
        if_neg (by simp [hempty, hdot])
      rw [descend_cons, ← hleads]
      exact ih hrest (follow_cons_eq_ok.mp h).2

/-- A path is followed if its text can be handed over. -/
theorem place_eq_ok_iff :
    t.place path = .ok place ↔
      checkText path.text = .ok () ∧ t.follow (t.start path) path.steps = .ok place := by
  unfold FileTree.place
  cases checkText path.text with
  | error f => exact iff_of_false nofun fun h => nomatch h.1
  | ok u => exact (and_iff_right rfl).symm

theorem place_eq_ok (short : path.Short) (h : t.place path = .ok place) :
    place = t.destination path := by
  have hfollow := (place_eq_ok_iff.mp h).2
  unfold FilePath.steps at hfollow
  split at hfollow
  · rename_i hnone
    rw [Bool.and_eq_true, List.isEmpty_iff] at hnone
    have hself : place = t.start path := by
      have hlast := (follow_cons_eq_ok.mp hfollow).2
      cases hlast
      rfl
    rw [hself, destination, hnone.2]
    rfl
  · exact follow_eq_ok path.parts short hfollow

/-! ### Entries -/

theorem leadsThrough_iff :
    t.leadsThrough place = true ↔
      place <+: t.base ∨ (∃ d ∈ t.directories, place <+: d) ∨ ∃ f ∈ t.files.keys, place <+: f := by
  simp [leadsThrough, or_assoc]

/-- Whatever is above the start of a path is known. -/
theorem leadsThrough_start (h : place <+: t.start path) : t.leadsThrough place = true := by
  rw [leadsThrough_iff]
  unfold start at h
  split at h
  · exact Or.inl h
  · rw [List.prefix_nil.mp h]
    exact Or.inl List.nil_prefix

/-- A tree with more in it leads through more places. -/
theorem leadsThrough_mono (hbase : t'.base = t.base)
    (hdirectories : ∀ d ∈ t.directories, d ∈ t'.directories)
    (hfiles : ∀ f ∈ t.files.keys, f ∈ t'.files.keys) (h : t.leadsThrough place = true) :
    t'.leadsThrough place = true := by
  rw [leadsThrough_iff, hbase]
  rcases leadsThrough_iff.mp h with habove | ⟨d, hd, habove⟩ | ⟨f, hf, habove⟩
  · exact Or.inl habove
  · exact Or.inr (Or.inl ⟨d, hdirectories d hd, habove⟩)
  · exact Or.inr (Or.inr ⟨f, hfiles f hf, habove⟩)

/-- The leading parts of the path lead to the place. -/
def OnWay (t : FileTree) (path : FilePath) (place : FilePlace) : Prop :=
  ∃ lead, lead <+: path.parts ∧ place = t.destination { path with parts := lead }

/-- Above a place on the way of a path everything is known or lies on the way itself. -/
theorem OnWay.above {place above : FilePlace} (h : t.OnWay path place) (habove : above <+: place) :
    t.leadsThrough above = true ∨ t.OnWay path above := by
  obtain ⟨lead, hlead, rfl⟩ := h
  rcases prefix_descend lead habove with hstart | ⟨fewer, hfewer, heq⟩
  · exact Or.inl (leadsThrough_start hstart)
  · exact Or.inr ⟨fewer, hfewer.trans hlead, heq⟩

/-- Above the place that a path leads to everything is known or lies on the way of its
parent. -/
theorem onWay_parent (habove : place <+: t.destination path) (hne : place ≠ t.destination path) :
    t.leadsThrough place = true ∨ t.OnWay path.parent place := by
  rcases prefix_descend path.parts habove with hstart | ⟨lead, hlead, heq⟩
  · exact Or.inl (leadsThrough_start hstart)
  · refine Or.inr ⟨lead, ?_, heq⟩
    have hshorter : lead ≠ path.parts := by
      rintro rfl
      exact hne heq
    obtain ⟨rest, hrest⟩ := hlead
    rw [FilePath.parent, ← hrest]
    have hrest' : rest ≠ [] := by
      rintro rfl
      exact hshorter (by simpa using hrest)
    rw [List.dropLast_append_of_ne_nil hrest']
    exact List.prefix_append _ _

theorem entry?_eq_file {content : Utf8.Bytes} (h : t.files.get? place = some content) :
    t.entry? place = some (.file content) := by
  unfold entry?
  rw [h]

theorem entry?_of_no_file (h : t.files.get? place = none) :
    t.entry? place = if t.leadsThrough place then some .directory else none := by
  unfold entry?
  rw [h]

theorem entry?_eq_file_iff {content : Utf8.Bytes} :
    t.entry? place = some (.file content) ↔ t.files.get? place = some content := by
  cases hfile : t.files.get? place with
  | some other => simp [entry?_eq_file hfile]
  | none =>
      rw [entry?_of_no_file hfile]
      split <;> simp

theorem entry?_eq_directory :
    t.entry? place = some .directory ↔
      t.files.get? place = none ∧ t.leadsThrough place = true := by
  cases hfile : t.files.get? place with
  | some content => simp [entry?_eq_file hfile]
  | none => simp [entry?_of_no_file hfile]

/-- Where directories stay and nothing more is barred, parts lead where they led. -/
theorem follow_of_kept (hbarred : t'.barred = t.barred)
    (hkept : ∀ place, t.entry? place = some .directory → t'.entry? place = some .directory) :
    ∀ (parts : List String) {here : FilePlace},
      t.follow here parts = .ok place → t'.follow here parts = .ok place := by
  intro parts
  induction parts with
  | nil => intro here h; exact h
  | cons part rest ih =>
      intro here h
      obtain ⟨hstep, hrest⟩ := follow_cons_eq_ok.mp h
      obtain ⟨hhere, hpart, -⟩ := step_eq_ok_iff.mp hstep
      refine follow_cons_eq_ok.mpr ⟨step_eq_ok_iff.mpr ⟨hkept here hhere, ?_, rfl⟩, ih hrest⟩
      rwa [allows, hbarred]

theorem place_of_kept (hbase : t'.base = t.base) (hbarred : t'.barred = t.barred)
    (hkept : ∀ place, t.entry? place = some .directory → t'.entry? place = some .directory)
    (h : t.place path = .ok place) : t'.place path = .ok place := by
  obtain ⟨htext, hfollow⟩ := place_eq_ok_iff.mp h
  refine place_eq_ok_iff.mpr ⟨htext, ?_⟩
  rw [show t'.start path = t.start path by rw [start, start, hbase]]
  exact follow_of_kept hbarred hkept path.steps hfollow

/-- Parts behind those that lead to a place are followed from there. -/
theorem follow_append :
    ∀ (parts : List String) {here : FilePlace} (more : List String),
      t.follow here parts = .ok place → t.follow here (parts ++ more) = t.follow place more := by
  intro parts
  induction parts with
  | nil =>
      intro here more h
      cases h
      rfl
  | cons part rest ih =>
      intro here more h
      obtain ⟨hstep, hrest⟩ := follow_cons_eq_ok.mp h
      rw [List.cons_append, follow, hstep]
      exact ih more hrest

/-! ### Making directories and writing files -/

theorem newDirectory_eq_ok (h : t.newDirectory path = .ok t') :
    ∃ place, t.place path = .ok place ∧ t' = { t with directories := t.directories ++ [place] } := by
  unfold newDirectory at h
  cases hplace : t.place path with
  | error f =>
      rw [hplace] at h
      cases h
  | ok place =>
      rw [hplace] at h
      simp only [bind, Except.bind, throw, throwThe, MonadExceptOf.throw] at h
      repeat' split at h
      all_goals cases h
      exact ⟨place, rfl, rfl⟩

/-- The second tree is the first with more directories, which are on the way of the path. -/
def GrownOn (path : FilePath) (t t' : FileTree) : Prop :=
  ∃ made, t' = { t with directories := t.directories ++ made } ∧ ∀ d ∈ made, t.OnWay path d

theorem grownOn_self (path : FilePath) (t : FileTree) : GrownOn path t t :=
  ⟨[], by simp, nofun⟩

theorem GrownOn.trans (h : GrownOn path t t') (h' : GrownOn path t' t'') : GrownOn path t t'' := by
  obtain ⟨made, rfl, hmade⟩ := h
  obtain ⟨more, rfl, hmore⟩ := h'
  refine ⟨made ++ more, by simp, fun d hd => ?_⟩
  exact (List.mem_append.mp hd).elim (hmade d) (hmore d)

/-- What is on the way of the beginning of a path is on the way of the path. -/
theorem GrownOn.further {lead parts : List String} {root : String} (hlead : lead <+: parts)
    (h : GrownOn ⟨root, lead⟩ t t') : GrownOn ⟨root, parts⟩ t t' := by
  obtain ⟨made, rfl, hmade⟩ := h
  refine ⟨made, rfl, fun d hd => ?_⟩
  obtain ⟨fewer, hfewer, heq⟩ := hmade d hd
  exact ⟨fewer, hfewer.trans hlead, heq⟩

theorem grownOn_tryDirectory (short : path.Short) (t : FileTree) :
    GrownOn path t (t.tryDirectory path).1 := by
  unfold tryDirectory
  split
  · rename_i made hmade
    obtain ⟨place, hplace, rfl⟩ := newDirectory_eq_ok hmade
    refine ⟨[place], rfl, List.forall_mem_singleton.mpr ⟨path.parts, List.prefix_rfl, ?_⟩⟩
    exact place_eq_ok short hplace
  · exact grownOn_self path t
  · split
    all_goals exact grownOn_self path t

/-- Whatever comes of making a directory, only directories on the way of its path are new. -/
theorem grownOn_makeFrom (root : String) :
    ∀ (back : List String) (t : FileTree), FilePath.Short ⟨root, back.reverse⟩ →
      GrownOn ⟨root, back.reverse⟩ t (t.makeFrom root back).1 := by
  intro back
  induction back with
  | nil => exact fun t short => grownOn_tryDirectory short t
  | cons part above ih =>
      intro t short
      have hlead : above.reverse <+: (part :: above).reverse := by
        rw [List.reverse_cons]
        exact List.prefix_append _ _
      have habove := (ih t fun p hp => short p (hlead.subset hp)).further hlead
      rw [makeFrom]
      split
      · split
        · rename_i made hmade
          rw [hmade] at habove
          exact habove.trans (grownOn_tryDirectory short made)
        · exact habove
      · exact grownOn_tryDirectory short t

theorem grownOn_makeDirectory (short : path.Short) (t : FileTree) :
    GrownOn path t (t.makeDirectory path).1 := by
  have h := grownOn_makeFrom path.root path.parts.reverse t (by rwa [List.reverse_reverse])
  rwa [List.reverse_reverse] at h

example : (makeDirectory ⟨.ofList [(["f"], [])], [], [], []⟩ (.ofText "a/../f/x")).1.directories
    = [["a"]] := by decide

/-- What is made besides leaves a directory one. -/
theorem directory_of_made (made : List FilePlace) (h : t.entry? place = some .directory) :
    FileTree.entry? { t with directories := t.directories ++ made } place = some .directory := by
  obtain ⟨hfile, hthrough⟩ := entry?_eq_directory.mp h
  refine entry?_eq_directory.mpr ⟨hfile, ?_⟩
  exact leadsThrough_mono (t := t) rfl (fun _ hd => List.mem_append_left _ hd) (fun _ hf => hf)
    hthrough

/-- A file that is not written over a directory leaves every directory one. -/
theorem directory_of_write {target : FilePlace} (hfree : t.entry? target ≠ some .directory)
    (content : Utf8.Bytes) (h : t.entry? place = some .directory) :
    FileTree.entry? { t with files := t.files.insert target content } place
      = some .directory := by
  have hne : place ≠ target := by
    rintro rfl
    exact hfree h
  obtain ⟨hfile, hthrough⟩ := entry?_eq_directory.mp h
  refine entry?_eq_directory.mpr ⟨?_, leadsThrough_mono (t := t) rfl (fun _ hd => hd) ?_ hthrough⟩
  · rw [OrderedMap.get?_insert, if_neg hne]
    exact hfile
  · exact fun f hf => OrderedMap.mem_keys_insert.mpr (Or.inr hf)

theorem write_eq_ok (content : Utf8.Bytes) (h : t.write path content = .ok t') :
    ∃ place, t.place path = .ok place ∧ t.entry? place ≠ some .directory ∧
      t' = { t with files := t.files.insert place content } := by
  unfold write at h
  cases hplace : t.place path with
  | error f =>
      rw [hplace] at h
      cases h
  | ok place =>
      rw [hplace] at h
      simp only [bind, Except.bind, pure, Except.pure, throw, throwThe, MonadExceptOf.throw] at h
      refine ⟨place, rfl, ?_⟩
      cases hentry : t.entry? place with
      | none =>
          rw [hentry] at h
          dsimp only at h
          split at h
          · cases h
          · cases h
            exact ⟨nofun, rfl⟩
      | some e =>
          rw [hentry] at h
          cases e with
          | directory => cases h
          | file old =>
              dsimp only at h
              split at h
              · cases h
              · cases h
                exact ⟨nofun, rfl⟩

/-- The second tree is the first with files written where paths lead to, and with directories
on the way of their parents.  No directory becomes a file. -/
structure Writes (t t' : FileTree) (written : List (FilePath × Utf8.Bytes)) : Prop where
  base : t'.base = t.base
  barred : t'.barred = t.barred
  kept : ∀ place, t.entry? place = some .directory → t'.entry? place = some .directory
  leads : ∀ w ∈ written, t'.place w.1 = .ok (t.destination w.1)
  files : t'.files = (written.map fun w => (t.destination w.1, w.2)).foldl
    (fun m w => m.insert w.1 w.2) t.files
  directories : ∃ made, t'.directories = t.directories ++ made ∧
    ∀ d ∈ made, ∃ w ∈ written, t.OnWay w.1.parent d

/-- Where a path leads depends on the working directory alone. -/
theorem destination_congr (hbase : t'.base = t.base) (path : FilePath) :
    t'.destination path = t.destination path := by
  unfold destination start
  rw [hbase]

theorem onWay_congr (hbase : t'.base = t.base) (path : FilePath) (place : FilePlace) :
    t'.OnWay path place ↔ t.OnWay path place := by
  unfold OnWay
  simp only [destination_congr hbase]

theorem writes_nil (t : FileTree) : t.Writes t [] :=
  ⟨rfl, rfl, fun _ h => h, nofun, rfl, [], by simp, nofun⟩

/-- A file that is written behind the making of its parent. -/
theorem writes_file {made : FileTree} {content : Utf8.Bytes} (short : path.Short)
    (hmade : t.makeDirectory path.parent = (made, none))
    (hwrite : made.write path content = .ok t') : t.Writes t' [(path, content)] := by
  have hgrown := grownOn_makeDirectory (t := t) short.parent
  rw [hmade] at hgrown
  obtain ⟨directories, rfl, hdirectories⟩ := hgrown
  obtain ⟨place, hplace, hfree, rfl⟩ := write_eq_ok content hwrite
  have hdestination : place = t.destination path :=
    (place_eq_ok short hplace).trans (destination_congr rfl path)
  subst hdestination
  have hkept (place : FilePlace) (h : t.entry? place = some .directory) :=
    directory_of_write hfree content (directory_of_made directories h)
  refine ⟨rfl, rfl, hkept, List.forall_mem_singleton.mpr ?_, rfl, directories, rfl, fun d hd => ?_⟩
  · exact place_of_kept (t := { t with directories := t.directories ++ directories }) rfl rfl
      (fun place => directory_of_write hfree content) hplace
  · exact ⟨_, List.mem_singleton_self _, hdirectories d hd⟩

theorem Writes.append {ws ws' : List (FilePath × Utf8.Bytes)} (h : t.Writes t' ws)
    (h' : t'.Writes t'' ws') : t.Writes t'' (ws ++ ws') := by
  obtain ⟨made, hmade, hway⟩ := h.directories
  obtain ⟨made', hmade', hway'⟩ := h'.directories
  refine ⟨h'.base.trans h.base, h'.barred.trans h.barred,
    fun place hplace => h'.kept place (h.kept place hplace), ?_, ?_, made ++ made', ?_,
    fun d hd => ?_⟩
  · intro w hw
    rcases List.mem_append.mp hw with hw | hw
    · exact place_of_kept h'.base h'.barred h'.kept (h.leads w hw)
    · rw [h'.leads w hw, destination_congr h.base]
  · rw [h'.files, h.files, List.map_append, List.foldl_append]
    simp only [destination_congr h.base]
  · rw [hmade', hmade, List.append_assoc]
  · rcases List.mem_append.mp hd with hd | hd
    · obtain ⟨w, hw, hon⟩ := hway d hd
      exact ⟨w, List.mem_append_left _ hw, hon⟩
    · obtain ⟨w, hw, hon⟩ := hway' d hd
      exact ⟨w, List.mem_append_right _ hw, (onWay_congr h.base _ _).mp hon⟩

/-! ### What a write changes -/

/-- A place that a written tree leads through is one that the tree led through before, the end
of a path that is written, or on the way of its parent. -/
theorem Writes.leadsThrough {ws : List (FilePath × Utf8.Bytes)} (h : t.Writes t' ws)
    (hplace : t'.leadsThrough place = true) :
    t.leadsThrough place = true ∨ (∃ w ∈ ws, place = t.destination w.1) ∨
      ∃ w ∈ ws, t.OnWay w.1.parent place := by
  obtain ⟨made, hmade, hway⟩ := h.directories
  have hkeys : ∀ f ∈ t'.files.keys, f ∈ t.files.keys ∨ ∃ w ∈ ws, f = t.destination w.1 := by
    intro f hf
    rw [h.files, OrderedMap.mem_keys_foldl_insert, List.map_map] at hf
    refine hf.imp_right fun hnew => ?_
    obtain ⟨w, hw, heq⟩ := List.mem_map.mp hnew
    exact ⟨w, hw, heq.symm⟩
  have hout {w : FilePath × Utf8.Bytes} (hw : w ∈ ws)
      (hon : t.leadsThrough place = true ∨ t.OnWay w.1.parent place) :
      t.leadsThrough place = true ∨ (∃ w ∈ ws, place = t.destination w.1) ∨
        ∃ w ∈ ws, t.OnWay w.1.parent place :=
    hon.imp_right fun hon => Or.inr ⟨w, hw, hon⟩
  rw [leadsThrough_iff, h.base, hmade] at hplace
  rcases hplace with hbase | ⟨d, hd, habove⟩ | ⟨f, hf, habove⟩
  · exact Or.inl (leadsThrough_iff.mpr (Or.inl hbase))
  · rcases List.mem_append.mp hd with hold | hnew
    · exact Or.inl (leadsThrough_iff.mpr (Or.inr (Or.inl ⟨d, hold, habove⟩)))
    · obtain ⟨w, hw, hon⟩ := hway d hnew
      exact hout hw (hon.above habove)
  · rcases hkeys f hf with hold | ⟨w, hw, rfl⟩
    · exact Or.inl (leadsThrough_iff.mpr (Or.inr (Or.inr ⟨f, hold, habove⟩)))
    · by_cases hend : place = t.destination w.1
      · exact Or.inr (Or.inl ⟨w, hw, hend⟩)
      · exact hout hw (onWay_parent habove hend)

/-- What a tree leads through, a written one does. -/
theorem Writes.leadsThrough_of_leadsThrough {ws : List (FilePath × Utf8.Bytes)}
    (h : t.Writes t' ws) (hplace : t.leadsThrough place = true) :
    t'.leadsThrough place = true := by
  obtain ⟨made, hmade, -⟩ := h.directories
  refine leadsThrough_mono h.base (fun d hd => ?_) (fun f hf => ?_) hplace
  · rw [hmade]
    exact List.mem_append_left _ hd
  · rw [h.files, OrderedMap.mem_keys_foldl_insert]
    exact Or.inl hf

/-- **A written tree has the files that are written**, if they are at different places. -/
theorem Writes.entry?_written {ws : List (FilePath × Utf8.Bytes)} (h : t.Writes t' ws)
    (distinct : (ws.map fun w => t.destination w.1).Nodup) {w : FilePath × Utf8.Bytes}
    (hw : w ∈ ws) : t'.entry? (t.destination w.1) = some (.file w.2) := by
  refine entry?_eq_file ?_
  have hpairs : ((ws.map fun w => (t.destination w.1, w.2)).map Prod.fst).Nodup := by
    rw [List.map_map]
    exact distinct
  rw [h.files]
  exact OrderedMap.get?_foldl_insert_of_mem hpairs (List.mem_map_of_mem hw) t.files

/-- **A written tree differs from the tree in the files that are written and in missing
directories on the way of their parents.** -/
theorem Writes.entry?_elsewhere {ws : List (FilePath × Utf8.Bytes)} (h : t.Writes t' ws)
    (hplace : ∀ w ∈ ws, place ≠ t.destination w.1) :
    t'.entry? place = t.entry? place ∨
      t.entry? place = none ∧ t'.entry? place = some .directory ∧
        ∃ w ∈ ws, t.OnWay w.1.parent place := by
  have hfile : t'.files.get? place = t.files.get? place := by
    rw [h.files]
    refine OrderedMap.get?_foldl_insert_of_not_mem ?_ _
    rw [List.map_map]
    intro hmem
    obtain ⟨w, hw, heq⟩ := List.mem_map.mp hmem
    exact hplace w hw heq.symm
  cases hold : t.files.get? place with
  | some content => exact Or.inl (by rw [entry?_eq_file hold, entry?_eq_file (hfile.trans hold)])
  | none =>
      rw [entry?_of_no_file hold, entry?_of_no_file (hfile.trans hold)]
      by_cases hknown : t.leadsThrough place = true
      · exact Or.inl (by rw [if_pos hknown, if_pos (h.leadsThrough_of_leadsThrough hknown)])
      · by_cases hnew : t'.leadsThrough place = true
        · rw [if_neg hknown, if_pos hnew]
          rcases h.leadsThrough hnew with hthrough | ⟨w, hw, heq⟩ | hway
          · exact absurd hthrough hknown
          · exact absurd heq (hplace w hw)
          · exact Or.inr ⟨rfl, rfl, hway⟩
        · exact Or.inl (by rw [if_neg hknown, if_neg hnew])

end FileTree

end ServiceAtlas
