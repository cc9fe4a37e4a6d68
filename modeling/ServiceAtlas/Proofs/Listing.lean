/-
What a listing of a directory holds.

A listing goes by what is there and by what may be read and searched.  A name is listed when
every directory on the way to it may be read and every one that the way leads on from may be
searched as well; `mem_filesBelow` and `hidesBelow_iff` say what that makes of the files below a
place, and `filesBelow_ordered` that they come in strictly increasing order.

A listing knows places and reading follows paths.  In a tree as a disk can hold it, where no file
is above another and names are names, a listed file is found again by its path;
`Proper.read_append` is that fact.
-/
import ServiceAtlas.Proofs.Dotted
import ServiceAtlas.Proofs.FileTree

namespace ServiceAtlas

namespace FileTree

variable {t : FileTree} {here place : FilePlace} {path : FilePath} {parts : List String}
  {content : Utf8.Bytes} {ending : String}

/-! ### Names on the way -/

/-- The names on the way from a place are listed: what holds a name may be read, and what the
way leads on from may be searched. -/
structure Listed (t : FileTree) (place : FilePlace) (parts : List String) : Prop where
  read : ∀ above, above <+: parts → above ≠ parts → t.allows .read (place ++ above) = true
  searched : ∀ above, above <+: parts.dropLast → above ≠ parts.dropLast →
    t.allows .search (place ++ above) = true

theorem isListed_iff :
    ∀ (parts : List String) {place : FilePlace},
      t.isListed place parts = true ↔ t.Listed place parts
  | [], place =>
      iff_of_true rfl ⟨fun _ habove hne => absurd (List.prefix_nil.mp habove) hne,
        fun _ habove hne => absurd (List.prefix_nil.mp habove) hne⟩
  | [name], place => by
      rw [isListed]
      constructor
      · intro h
        refine ⟨fun above habove hne => ?_, fun above habove hne => ?_⟩
        · obtain rfl | ⟨rest, rfl, hrest⟩ := List.prefix_cons_iff.mp habove
          · rwa [List.append_nil]
          · exact absurd (by rw [List.prefix_nil.mp hrest]) hne
        · exact absurd (List.prefix_nil.mp habove) hne
      · intro h
        simpa using h.read [] List.nil_prefix (List.cons_ne_nil _ _).symm
  | name :: next :: rest, place => by
      have hplace (above : List String) : place ++ [name] ++ above = place ++ name :: above := by
        simp
      rw [isListed, Bool.and_eq_true, Bool.and_eq_true, isListed_iff (next :: rest)]
      · constructor
        · rintro ⟨⟨hread, hsearch⟩, hrest⟩
          refine ⟨fun above habove hne => ?_, fun above habove hne => ?_⟩
          · obtain rfl | ⟨fewer, rfl, hfewer⟩ := List.prefix_cons_iff.mp habove
            · rwa [List.append_nil]
            · rw [← hplace]
              exact hrest.read fewer hfewer fun heq => hne (by rw [heq])
          · rw [List.dropLast_cons_cons] at habove hne
            obtain rfl | ⟨fewer, rfl, hfewer⟩ := List.prefix_cons_iff.mp habove
            · rwa [List.append_nil]
            · rw [← hplace]
              exact hrest.searched fewer hfewer fun heq => hne (by rw [heq])
        · intro h
          refine ⟨⟨?_, ?_⟩, fun above habove hne => ?_, fun above habove hne => ?_⟩
          · simpa using h.read [] List.nil_prefix (List.cons_ne_nil _ _).symm
          · simpa using h.searched [] List.nil_prefix (by simp)
          · rw [hplace]
            exact h.read _ (List.cons_prefix_cons.mpr ⟨rfl, habove⟩) (by simpa using hne)
          · rw [hplace]
            exact h.searched _ (List.cons_prefix_cons.mpr ⟨rfl, habove⟩) (by simpa using hne)
      · nofun

/-- Nothing at the place or below it is barred from being read or searched. -/
def OpenBelow (t : FileTree) (place : FilePlace) : Prop :=
  ∀ below, place <+: below → t.allows .read below = true ∧ t.allows .search below = true

theorem OpenBelow.listed (h : t.OpenBelow place) (parts : List String) : t.Listed place parts :=
  ⟨fun _ _ _ => (h _ (List.prefix_append _ _)).1, fun _ _ _ => (h _ (List.prefix_append _ _)).2⟩

theorem allows_iff {a : Access} : t.allows a place = true ↔ (place, a) ∉ t.barred := by
  simp [allows]

/-- Whether a place is open can be told from what is barred. -/
theorem openBelow_iff :
    t.OpenBelow place ↔ ∀ b ∈ t.barred, place <+: b.1 → b.2 = .write := by
  simp only [OpenBelow, allows_iff]
  constructor
  · rintro h ⟨below, a⟩ hb hbelow
    cases a with
    | read => exact absurd hb (h below hbelow).1
    | write => rfl
    | search => exact absurd hb (h below hbelow).2
  · intro h below hbelow
    constructor
    · intro hb
      cases h _ hb hbelow
    · intro hb
      cases h _ hb hbelow

instance : Decidable (t.OpenBelow place) :=
  decidable_of_iff _ openBelow_iff.symm

/-! ### The files below a place -/

theorem mem_keys_iff_file :
    place ∈ t.files.keys ↔ ∃ content, t.entry? place = some (.file content) := by
  simp [OrderedMap.mem_keys_iff, entry?_eq_file_iff]

theorem endsIn_iff : endsIn ending parts = true ↔
    ending.toList <:+ (parts.getLast?.getD "").toList :=
  List.isSuffixOf_iff_suffix

/-- The files that are listed below a place, by the parts that lead to them from there. -/
theorem mem_filesBelow :
    parts ∈ t.filesBelow place ending ↔
      parts ≠ [] ∧ (∃ content, t.entry? (place ++ parts) = some (.file content)) ∧
        ending.toList <:+ (parts.getLast?.getD "").toList ∧ t.Listed place parts := by
  rw [filesBelow, List.mem_mergeSort, List.mem_map, ← mem_keys_iff_file]
  constructor
  · rintro ⟨file, hfile, rfl⟩
    rw [List.mem_filter, Bool.and_eq_true, Bool.and_eq_true, Bool.and_eq_true, decide_eq_true_eq,
      List.isPrefixOf_iff_prefix, endsIn_iff, isListed_iff] at hfile
    obtain ⟨hkey, ⟨⟨hlength, hbelow⟩, hending⟩, hlisted⟩ := hfile
    obtain ⟨parts, rfl⟩ := hbelow
    rw [List.drop_left] at hending hlisted ⊢
    refine ⟨?_, hkey, hending, hlisted⟩
    rintro rfl
    simp at hlength
  · rintro ⟨hparts, hkey, hending, hlisted⟩
    refine ⟨place ++ parts, ?_, List.drop_left⟩
    rw [List.mem_filter, Bool.and_eq_true, Bool.and_eq_true, Bool.and_eq_true, decide_eq_true_eq,
      List.isPrefixOf_iff_prefix, List.drop_left, endsIn_iff, isListed_iff]
    have hlength : 0 < parts.length := List.length_pos_iff.mpr hparts
    exact ⟨hkey, ⟨⟨by rw [List.length_append]; omega, List.prefix_append _ _⟩, hending⟩, hlisted⟩

theorem placeAtMost_iff (p q : FilePlace) : placeAtMost p q = true ↔ ¬q < p := by
  simp [placeAtMost]

theorem filesBelow_ordered (t : FileTree) (place : FilePlace) (ending : String) :
    (t.filesBelow place ending).Pairwise (· < ·) := by
  have hsorted : (t.filesBelow place ending).Pairwise fun p q => placeAtMost p q = true := by
    refine List.pairwise_mergeSort (fun p q r => ?_) (fun p q => ?_) _
    · simp only [placeAtMost_iff]
      exact @List.le_trans String _ _ _ _ p q r
    · simp only [Bool.or_eq_true, placeAtMost_iff]
      exact @List.le_total String _ _ p q
  have hdistinct : (t.filesBelow place ending).Nodup := by
    rw [filesBelow, (List.mergeSort_perm _ _).nodup_iff]
    refine List.Nodup.map_on ?_ (t.files.nodup.filter _)
    intro p hp q hq hdrop
    simp only [List.mem_filter, Bool.and_eq_true, List.isPrefixOf_iff_prefix] at hp hq
    obtain ⟨p, rfl⟩ := hp.2.1.1.2
    obtain ⟨q, rfl⟩ := hq.2.1.1.2
    simpa using hdrop
  refine List.Pairwise.imp₂ (fun p q hle hne => ?_) hsorted hdistinct
  exact Decidable.by_contra fun hnot =>
    hne (@List.le_antisymm String _ _ p q ((placeAtMost_iff p q).mp hle) hnot)

/-! ### Names that cannot be told -/

theorem isSome_entry?_iff : (t.entry? place).isSome = true ↔ t.leadsThrough place = true := by
  cases hfile : t.files.get? place with
  | none =>
      rw [entry?_of_no_file hfile]
      split <;> simp_all
  | some content =>
      rw [entry?_eq_file hfile]
      refine iff_of_true rfl (leadsThrough_iff.mpr (Or.inr (Or.inr ⟨place, ?_, List.prefix_rfl⟩)))
      exact mem_keys_iff_file.mpr ⟨content, entry?_eq_file hfile⟩

theorem mem_heads_iff {head : List String} : head ∈ heads parts ↔ head ≠ [] ∧ head <+: parts := by
  rw [heads, List.mem_map]
  constructor
  · rintro ⟨n, hn, rfl⟩
    rw [List.mem_range] at hn
    exact ⟨List.ne_nil_of_length_pos (by rw [List.length_take]; omega), List.take_prefix _ _⟩
  · rintro ⟨hne, hprefix⟩
    have hlength : 0 < head.length := List.length_pos_iff.mpr hne
    refine ⟨head.length - 1, List.mem_range.mpr ?_, ?_⟩
    · have := hprefix.length_le
      omega
    · rw [Nat.sub_add_cancel hlength]
      exact (List.prefix_iff_eq_take.mp hprefix).symm

/-- Whatever stands below a place is found on the way to something known. -/
theorem mem_waysBelow :
    parts ∈ t.waysBelow place ↔ parts ≠ [] ∧ (t.entry? (place ++ parts)).isSome = true := by
  have hknown (known : FilePlace) :
      (parts ∈ if place.isPrefixOf known then heads (known.drop place.length) else []) ↔
        parts ≠ [] ∧ place ++ parts <+: known := by
    constructor
    · intro h
      split at h
      · rename_i hplace
        obtain ⟨rest, rfl⟩ := List.isPrefixOf_iff_prefix.mp hplace
        rw [List.drop_left, mem_heads_iff] at h
        exact ⟨h.1, (List.prefix_append_right_inj place).mpr h.2⟩
      · exact absurd h List.not_mem_nil
    · rintro ⟨hne, hprefix⟩
      have hplace := (List.prefix_append place parts).trans hprefix
      rw [if_pos (List.isPrefixOf_iff_prefix.mpr hplace), mem_heads_iff]
      obtain ⟨rest, rfl⟩ := hplace
      rw [List.drop_left]
      exact ⟨hne, (List.prefix_append_right_inj place).mp hprefix⟩
  simp only [waysBelow, List.mem_flatMap, hknown, isSome_entry?_iff, leadsThrough_iff]
  simp only [List.mem_cons, List.mem_append]
  constructor
  · rintro ⟨known, rfl | hdirectory | hfile, hne, hprefix⟩
    · exact ⟨hne, Or.inl hprefix⟩
    · exact ⟨hne, Or.inr (Or.inl ⟨known, hdirectory, hprefix⟩)⟩
    · exact ⟨hne, Or.inr (Or.inr ⟨known, hfile, hprefix⟩)⟩
  · rintro ⟨hne, hprefix | ⟨known, hdirectory, hprefix⟩ | ⟨known, hfile, hprefix⟩⟩
    · exact ⟨_, Or.inl rfl, hne, hprefix⟩
    · exact ⟨known, Or.inr (Or.inl hdirectory), hne, hprefix⟩
    · exact ⟨known, Or.inr (Or.inr hfile), hne, hprefix⟩

/-- Something stands below the place whose name is listed and ends as given. -/
structure Names (t : FileTree) (place : FilePlace) (ending : String) (parts : List String) :
    Prop where
  ne_nil : parts ≠ []
  there : (t.entry? (place ++ parts)).isSome = true
  ending : ending.toList <:+ (parts.getLast?.getD "").toList
  listed : t.Listed place parts

theorem hidesBelow_iff :
    t.hidesBelow place ending = true ↔
      ∃ parts, t.Names place ending parts ∧
        t.allows .search (place ++ parts.dropLast) = false := by
  simp only [hidesBelow, List.any_eq_true, Bool.and_eq_true, Bool.not_eq_true', mem_waysBelow,
    endsIn_iff, isListed_iff]
  constructor
  · rintro ⟨parts, ⟨hne, hthere⟩, ⟨hending, hlisted⟩, hsearch⟩
    exact ⟨parts, ⟨hne, hthere, hending, hlisted⟩, hsearch⟩
  · rintro ⟨parts, ⟨hne, hthere, hending, hlisted⟩, hsearch⟩
    exact ⟨parts, ⟨hne, hthere⟩, ⟨hending, hlisted⟩, hsearch⟩

/-! ### Trees as a disk can hold them -/

/-- The text can name a file. -/
structure IsName (name : String) : Prop where
  ne_empty : name ≠ ""
  ne_dot : name ≠ "."
  ne_up : name ≠ FilePath.up
  short : byteLength name ≤ maxNameBytes
  noNull : '\x00' ∉ name.toList

instance (name : String) : Decidable (IsName name) :=
  decidable_of_iff (name ≠ "" ∧ name ≠ "." ∧ name ≠ FilePath.up ∧
      byteLength name ≤ maxNameBytes ∧ '\x00' ∉ name.toList)
    ⟨fun ⟨h₁, h₂, h₃, h₄, h₅⟩ => ⟨h₁, h₂, h₃, h₄, h₅⟩,
      fun ⟨h₁, h₂, h₃, h₄, h₅⟩ => ⟨h₁, h₂, h₃, h₄, h₅⟩⟩

/-- Names of files are names, and no file is above another. -/
structure Proper (t : FileTree) : Prop where
  names : ∀ place ∈ t.files.keys, ∀ name ∈ place, IsName name
  leaves : ∀ place ∈ t.files.keys, ∀ other ∈ t.files.keys, place <+: other → place = other

/-- Whatever stands above a file is a directory. -/
theorem Proper.directory_above (h : t.Proper) {other : FilePlace} (hother : other ∈ t.files.keys)
    (habove : place <+: other) (hne : place ≠ other) : t.entry? place = some .directory := by
  rw [entry?_eq_directory, leadsThrough_iff]
  refine ⟨?_, Or.inr (Or.inr ⟨other, hother, habove⟩)⟩
  rw [OrderedMap.get?_eq_none_iff]
  exact fun hplace => hne (h.leaves place hplace other hother habove)

/-- Parts lead down to a file of a proper tree through directories that may be searched. -/
theorem Proper.follow_file (h : t.Proper) :
    ∀ (parts : List String) {here : FilePlace}, here ++ parts ∈ t.files.keys →
      (∀ above, above <+: parts → above ≠ parts → t.allows .search (here ++ above) = true) →
      t.follow here parts = .ok (here ++ parts) := by
  intro parts
  induction parts with
  | nil =>
      intro here _ _
      rw [List.append_nil]
      rfl
  | cons part rest ih =>
      intro here hfile hsearch
      have hdirectory : t.entry? here = some .directory :=
        h.directory_above hfile (List.prefix_append _ _) (by simp)
      have hname := h.names _ hfile part (by simp)
      have hdown : stepTo here part = here ++ [part] := by
        simp [stepTo, hname.ne_empty, hname.ne_dot, hname.ne_up]
      have hhere : t.allows .search here = true := by
        simpa using hsearch [] List.nil_prefix (List.cons_ne_nil _ _).symm
      have hstep : t.step here part = .ok (stepTo here part) :=
        step_eq_ok_iff.mpr ⟨hdirectory, Or.inr ⟨hhere, hname.short⟩, rfl⟩
      refine follow_cons_eq_ok.mpr ⟨hstep, ?_⟩
      rw [hdown, ih (by simpa using hfile) fun above habove hne => ?_]
      · simp
      · have hfurther := hsearch (part :: above) (List.cons_prefix_cons.mpr ⟨rfl, habove⟩)
          (by simpa using hne)
        simpa using hfurther

/-- More parts behind a path are followed from where it leads to. -/
theorem follow_steps_append (hpath : t.follow (t.start path) path.steps = .ok place)
    (hparts : parts ≠ []) :
    t.follow (t.start path) (path.append parts).steps = t.follow place parts := by
  unfold FilePath.steps at hpath ⊢
  by_cases hnone : (path.root.isEmpty && path.parts.isEmpty) = true
  · rw [if_pos hnone] at hpath
    rw [Bool.and_eq_true, List.isEmpty_iff] at hnone
    have hself : t.start path = place := by
      have hlast := (follow_cons_eq_ok.mp hpath).2
      cases hlast
      rfl
    rw [if_neg (by simp [FilePath.append, hnone.2, hparts]), FilePath.append, hnone.2, hself]
    rfl
  · have hsome : ¬((path.append parts).root.isEmpty && (path.append parts).parts.isEmpty) = true := by
      simp [FilePath.append, hparts]
    rw [if_neg hnone] at hpath
    rw [if_neg hsome]
    exact follow_append path.parts parts hpath

theorem mem_text_iff {c : Char} (hdot : c ≠ '.') (hslash : c ≠ '/') (p : FilePath) :
    c ∈ p.text.toList ↔ c ∈ p.root.toList ∨ ∃ part ∈ p.parts, c ∈ part.toList := by
  have hsep : c ∉ "/".toList := by simpa using hslash
  unfold FilePath.text
  split
  · rename_i hnone
    simp only [Bool.and_eq_true, String.isEmpty_iff, List.isEmpty_iff] at hnone
    simpa [hnone] using hdot
  · rw [String.toList_append, List.mem_append, Text.mem_joined_iff hsep]

/-- A path is handed over unless it is too long, if all its names are names. -/
theorem checkText_append (hpath : checkText path.text = .ok ())
    (hnames : ∀ name ∈ parts, IsName name) :
    checkText (path.append parts).text = .ok () ∨
      checkText (path.append parts).text = .error .nameTooLong := by
  have hnull {p : FilePath} : p.text.toList.contains '\x00' = false ↔
      '\x00' ∉ p.root.toList ∧ ∀ part ∈ p.parts, '\x00' ∉ part.toList := by
    rw [← Bool.not_eq_true, List.contains_iff_mem, mem_text_iff (by decide) (by decide)]
    simp
  have hfree : path.text.toList.contains '\x00' = false := by
    by_contra hnull
    rw [checkText, if_pos (by simpa using hnull)] at hpath
    cases hpath
  obtain ⟨hroot, hparts⟩ := hnull.mp hfree
  have happend : (path.append parts).text.toList.contains '\x00' = false :=
    hnull.mpr ⟨hroot, fun part hpart =>
      (List.mem_append.mp hpart).elim (hparts part) fun h => (hnames part h).noNull⟩
  rw [checkText, happend, if_neg Bool.false_ne_true]
  split
  · exact Or.inr rfl
  · exact Or.inl rfl

/-- **A listed file is found again** from a path that leads to the place: it is read unless that
is barred or the path is too long. -/
theorem Proper.read_append (h : t.Proper) (hpath : t.place path = .ok place) (hparts : parts ≠ [])
    (hfile : t.entry? (place ++ parts) = some (.file content))
    (hsearch : ∀ above, above <+: parts → above ≠ parts →
      t.allows .search (place ++ above) = true) :
    t.read (path.append parts) = .ok content ∨ t.read (path.append parts) = .error .denied ∨
      t.read (path.append parts) = .error .nameTooLong := by
  have hkey := mem_keys_iff_file.mpr ⟨content, hfile⟩
  obtain ⟨htext, hfollow⟩ := place_eq_ok_iff.mp hpath
  have hnames : ∀ name ∈ parts, IsName name := fun name hname =>
    h.names _ hkey name (List.mem_append_right _ hname)
  have hdown : t.follow (t.start path) (path.append parts).steps = .ok (place ++ parts) :=
    (follow_steps_append hfollow hparts).trans (h.follow_file parts hkey hsearch)
  rcases checkText_append htext hnames with hfits | hlong
  · have hplace : t.place (path.append parts) = .ok (place ++ parts) :=
      place_eq_ok_iff.mpr ⟨hfits, hdown⟩
    rw [read, hplace]
    simp only [bind, Except.bind, hfile]
    by_cases hread : t.allows .read (place ++ parts) = true
    · exact Or.inl (by simp [hread, pure, Except.pure])
    · exact Or.inr (Or.inl (by simp [hread, throw, throwThe, MonadExceptOf.throw]))
  · refine Or.inr (Or.inr ?_)
    rw [read, FileTree.place, hlong]
    rfl

end FileTree

end ServiceAtlas
