/-
Which files are read, in which order, and what comes of it.

`Lists` leaves no choice about the files that a directory stands for: it says which they are and
that they are in strictly increasing order, so each is there once.  `Visits` puts these lists in
the place of the directories among the paths, up to the first path for which there is none.
Reading follows the visited files up to the first that is no text, and that file alone decides
the fault.

A directory that may not be read hides what is below it, and nothing is said about that.  One
that may be read but not searched ends the listing, since of a name in it nobody can tell whether
it is that of a file.  Where nothing is barred a directory lists every source file below it.
-/
import ServiceAtlas.Proofs.Listing
import ServiceAtlas.Proofs.Utf8
import ServiceAtlas.Sources

namespace ServiceAtlas

namespace Java

/-! ### Where declarations come from -/

mutual

theorem origin_member (scope origin : String) :
    ∀ m : Member, ∀ d ∈ m.declarations scope origin, d.origin = origin
  | .type head body behind => by
      rw [Member.declarations]
      refine List.forall_mem_cons.mpr ⟨rfl, fun d hd => ?_⟩
      rcases List.mem_append.mp hd with hbody | hbehind
      · exact origin_declarationsOf _ origin body d hbody
      · exact origin_declarationsOf _ origin behind d hbehind
  | .field _ => nofun
  | .method _ => nofun
  | .constructor _ => nofun
  | .constant _ => nofun
  | .other => nofun

theorem origin_declarationsOf (scope origin : String) :
    ∀ ms : List Member, ∀ d ∈ declarationsOf scope origin ms, d.origin = origin
  | [] => nofun
  | m :: ms => by
      intro d hd
      rw [declarationsOf] at hd
      rcases List.mem_append.mp hd with hfirst | hrest
      · exact origin_member scope origin m d hfirst
      · exact origin_declarationsOf scope origin ms d hrest

end

theorem origin_declarations (source : List Char) (origin : String) :
    ∀ d ∈ declarations source origin, d.origin = origin :=
  origin_declarationsOf _ origin _

end Java

namespace Sources

variable {t : FileTree} {path file : FilePath} {paths files before after : List FilePath}
  {d : SourceDefect} {source : List Char} {stop : SourceStop}

/-! ### The files that are visited -/

/-- What listing a path comes to.  A directory has the files whose names are listed and end as
those of sources do, in strictly increasing order of the parts of their paths, unless one of
these names is in a directory that may not be searched. -/
inductive Lists (t : FileTree) (path : FilePath) : Except FileFault (List FilePath) → Prop
  | files {place : FilePlace} {files : List FilePath} (hdirectory : t.isDirectory? path = .ok true)
      (hplace : t.place path = .ok place)
      (clear : ∀ parts, t.Names place ending parts →
        t.allows .search (place ++ parts.dropLast) = true)
      (mem : ∀ file, file ∈ files ↔ ∃ parts content, t.Names place ending parts ∧
        t.entry? (place ++ parts) = some (.file content) ∧ file = path.append parts)
      (ordered : files.Pairwise fun a b => a.parts < b.parts) : Lists t path (.ok files)
  | hidden {place : FilePlace} {parts : List String} (hdirectory : t.isDirectory? path = .ok true)
      (hplace : t.place path = .ok place) (hnames : t.Names place ending parts)
      (hidden : t.allows .search (place ++ parts.dropLast) = false) :
      Lists t path (.error .denied)
  | other (hother : t.isDirectory? path = .ok false) : Lists t path (.ok [])
  | unknown {f : FileFault} (hunknown : t.isDirectory? path = .error f) : Lists t path (.error f)

/-- The files are visited for the paths: those that a directory lists, and the path itself for
anything else, up to the first path for which nobody can tell. -/
inductive Visits (t : FileTree) : List FilePath → List FilePath → Option FileFault → Prop
  | nil : Visits t [] [] none
  | directory {path : FilePath} {listed paths files : List FilePath} {stop : Option FileFault}
      (hpath : t.isDirectory? path = .ok true) (hlisted : Lists t path (.ok listed))
      (h : Visits t paths files stop) : Visits t (path :: paths) (listed ++ files) stop
  | single {path : FilePath} {paths files : List FilePath} {stop : Option FileFault}
      (hpath : t.isDirectory? path = .ok false) (h : Visits t paths files stop) :
      Visits t (path :: paths) (path :: files) stop
  | unknown {path : FilePath} {paths : List FilePath} {f : FileFault}
      (hlisted : Lists t path (.error f)) : Visits t (path :: paths) [] (some f)

theorem append_lt_append {path : FilePath} {p q : List String} (h : p < q) :
    (path.append p).parts < (path.append q).parts :=
  List.append_left_lt h

theorem place_of_isDirectory? (h : t.isDirectory? path = .ok true) :
    ∃ place, t.place path = .ok place ∧ t.entry? place = some .directory := by
  unfold FileTree.isDirectory? FileTree.find at h
  cases hplace : t.place path with
  | error f =>
      simp only [hplace, bind, Except.bind] at h
      split at h <;> cases h
  | ok place =>
      refine ⟨place, rfl, ?_⟩
      cases hentry : t.entry? place with
      | none =>
          simp only [hplace, hentry, bind, Except.bind, throw, throwThe, MonadExceptOf.throw,
            FileFault.isAbsence] at h
          cases h
      | some e =>
          simp only [hplace, hentry, bind, Except.bind, pure, Except.pure] at h
          cases e with
          | directory => rfl
          | file content => cases h

theorem isDirectory?_of_place {place : FilePlace} (hplace : t.place path = .ok place)
    (hentry : t.entry? place = some .directory) : t.isDirectory? path = .ok true := by
  simp only [FileTree.isDirectory?, FileTree.find, hplace, hentry, bind, Except.bind, pure,
    Except.pure]

theorem below_of_directory {place : FilePlace} (hdirectory : t.isDirectory? path = .ok true)
    (hplace : t.place path = .ok place) :
    below t path = if t.hidesBelow place ending then .error .denied
      else .ok ((t.filesBelow place ending).map path.append) := by
  rw [below, hdirectory]
  simp only [bind, Except.bind, hplace, if_true]
  split <;> rfl

theorem mem_filesBelow_iff {place : FilePlace} :
    file ∈ (t.filesBelow place ending).map path.append ↔
      ∃ parts content, t.Names place ending parts ∧
        t.entry? (place ++ parts) = some (.file content) ∧ file = path.append parts := by
  simp only [List.mem_map, FileTree.mem_filesBelow]
  constructor
  · rintro ⟨parts, ⟨hparts, ⟨content, hfile⟩, hending, hlisted⟩, rfl⟩
    exact ⟨parts, content, ⟨hparts, by rw [hfile]; rfl, hending, hlisted⟩, hfile, rfl⟩
  · rintro ⟨parts, content, hnames, hfile, rfl⟩
    exact ⟨parts, ⟨hnames.ne_nil, ⟨content, hfile⟩, hnames.ending, hnames.listed⟩, rfl⟩

theorem filesBelow_pairwise (t : FileTree) (path : FilePath) (place : FilePlace) :
    ((t.filesBelow place ending).map path.append).Pairwise fun a b => a.parts < b.parts := by
  rw [List.pairwise_map]
  exact (t.filesBelow_ordered place ending).imp append_lt_append

theorem lists_below (t : FileTree) (path : FilePath) : Lists t path (below t path) := by
  cases hpath : t.isDirectory? path with
  | error f =>
      have hbelow : below t path = .error f := by rw [below, hpath]; rfl
      rw [hbelow]
      exact .unknown hpath
  | ok isDirectory =>
      cases isDirectory with
      | false =>
          have hbelow : below t path = .ok [] := by rw [below, hpath]; rfl
          rw [hbelow]
          exact .other hpath
      | true =>
          obtain ⟨place, hplace, -⟩ := place_of_isDirectory? hpath
          rw [below_of_directory hpath hplace]
          split
          · rename_i hhides
            obtain ⟨parts, hnames, hsearch⟩ := FileTree.hidesBelow_iff.mp hhides
            exact .hidden hpath hplace hnames hsearch
          · rename_i hclear
            refine .files hpath hplace (fun parts hnames => ?_) (fun file => mem_filesBelow_iff)
              (filesBelow_pairwise t path place)
            by_contra hsearch
            exact hclear (FileTree.hidesBelow_iff.mpr
              ⟨parts, hnames, Bool.eq_false_iff.mpr hsearch⟩)

theorem visited_cons (t : FileTree) (path : FilePath) (paths : List FilePath) :
    visited t (path :: paths) =
      match filesOf t path with
      | .error f => ([], some f)
      | .ok files => (files ++ (visited t paths).1, (visited t paths).2) :=
  rfl

theorem visits_visited (t : FileTree) (paths : List FilePath) :
    Visits t paths (visited t paths).1 (visited t paths).2 := by
  induction paths with
  | nil => exact .nil
  | cons path rest ih =>
      have hlists := lists_below t path
      cases hpath : t.isDirectory? path with
      | error f =>
          have hfiles : filesOf t path = .error f := by rw [filesOf, hpath]; rfl
          rw [visited_cons, hfiles]
          exact .unknown (.unknown hpath)
      | ok isDirectory =>
          cases isDirectory with
          | false =>
              have hfiles : filesOf t path = .ok [path] := by rw [filesOf, hpath]; rfl
              rw [visited_cons, hfiles]
              exact .single hpath ih
          | true =>
              have hfiles : filesOf t path = below t path := by rw [filesOf, hpath]; rfl
              cases hbelow : below t path with
              | error f =>
                  rw [hbelow] at hlists hfiles
                  rw [visited_cons, hfiles]
                  exact .unknown hlists
              | ok listed =>
                  rw [hbelow] at hlists hfiles
                  rw [visited_cons, hfiles]
                  exact .directory hpath hlists ih

/-! ### Reading them -/

/-- The defect is what is wrong with the file: it cannot be read, or what there is to read is no
text. -/
inductive Describes (t : FileTree) (file : FilePath) : SourceDefect → Prop
  | unreadable {f : FileFault} (hread : t.read file = .error f) (hf : f ≠ .nullCharacter) :
      Describes t file (.unreadable f)
  | undecodable {bytes : Utf8.Bytes} {d : Utf8.Defect} (hread : t.read file = .ok bytes)
      (hdecode : Utf8.decode bytes = .error d) (hbytes : ∀ source, Utf8.encode source ≠ bytes) :
      Describes t file (.undecodable d)

theorem text_of_fault {f : FileFault} (hread : t.read file = .error f)
    (hf : f ≠ .nullCharacter) : text t file = .error (.reported ⟨file.text, .unreadable f⟩) := by
  rw [text, hread]
  cases f <;> first | rfl | exact absurd rfl hf

theorem text_of_null (hread : t.read file = .error .nullCharacter) :
    text t file = .error (.unreported .nullCharacter) := by
  rw [text, hread]

theorem text_of_bytes {bytes : Utf8.Bytes} (hread : t.read file = .ok bytes) :
    text t file = (Utf8.decode bytes).mapError fun d => .reported ⟨file.text, .undecodable d⟩ := by
  rw [text, hread]
  dsimp only
  cases Utf8.decode bytes <;> rfl

theorem text_eq_ok_iff : text t file = .ok source ↔ t.read file = .ok (Utf8.encode source) := by
  cases hread : t.read file with
  | error f =>
      refine iff_of_false ?_ nofun
      by_cases hf : f = .nullCharacter
      · subst hf
        rw [text_of_null hread]
        nofun
      · rw [text_of_fault hread hf]
        nofun
  | ok bytes =>
      rw [text_of_bytes hread, Except.ok.injEq]
      cases hdecode : Utf8.decode bytes with
      | error d =>
          refine iff_of_false nofun fun hbytes => ?_
          exact Utf8.encode_ne_of_decode hdecode source hbytes.symm
      | ok cs =>
          show Except.ok cs = Except.ok source ↔ _
          rw [← Utf8.decode_eq_ok_iff.mp hdecode, Utf8.encode_inj, Except.ok.injEq]

/-- A file that gives no text is at fault, or its path has a null character. -/
theorem text_eq_error (h : text t file = .error stop) :
    (∃ d, stop = .reported ⟨file.text, d⟩ ∧ Describes t file d) ∨
      stop = .unreported .nullCharacter ∧ t.read file = .error .nullCharacter := by
  cases hread : t.read file with
  | error f =>
      by_cases hf : f = .nullCharacter
      · subst hf
        rw [text_of_null hread] at h
        cases h
        exact Or.inr ⟨rfl, rfl⟩
      · rw [text_of_fault hread hf] at h
        cases h
        exact Or.inl ⟨_, rfl, .unreadable hread hf⟩
  | ok bytes =>
      rw [text_of_bytes hread] at h
      cases hdecode : Utf8.decode bytes with
      | error d =>
          rw [hdecode] at h
          cases h
          exact Or.inl ⟨_, rfl, .undecodable hread hdecode (Utf8.encode_ne_of_decode hdecode)⟩
      | ok cs =>
          rw [hdecode] at h
          cases h

theorem readFiles_ok {sources : FilePath → List Char}
    (h : ∀ file ∈ files, text t file = .ok (sources file)) :
    (readFiles t files).outcome
      = .ok (files.flatMap fun file => Java.declarations (sources file) file.text) := by
  induction files with
  | nil => rfl
  | cons file rest ih =>
      obtain ⟨hfile, hrest⟩ := List.forall_mem_cons.mp h
      rw [readFiles, hfile]
      dsimp only
      rw [ih hrest]
      rfl

/-- The first file that is no text decides what ends the reading. -/
theorem readFiles_error (hbefore : ∀ file ∈ before, ∃ source, text t file = .ok source)
    (hfile : text t file = .error stop) (after : List FilePath) :
    (readFiles t (before ++ file :: after)).outcome = .error stop := by
  induction before with
  | nil => rw [List.nil_append, readFiles, hfile]
  | cons first rest ih =>
      obtain ⟨⟨source, hfirst⟩, hrest⟩ := List.forall_mem_cons.mp hbefore
      rw [List.cons_append, readFiles, hfirst]
      dsimp only
      rw [ih hrest]
      rfl

/-- Files are all texts, or there is a first one that is none. -/
theorem texts_or_first (t : FileTree) (files : List FilePath) :
    (∃ sources : FilePath → List Char, ∀ file ∈ files, text t file = .ok (sources file)) ∨
      ∃ before file after stop, files = before ++ file :: after ∧
        (∀ earlier ∈ before, ∃ source, text t earlier = .ok source) ∧
        text t file = .error stop := by
  have hsome {file : FilePath} (h : ¬(text t file).toOption.isNone = true) :
      ∃ source, text t file = .ok source := by
    cases hfile : text t file with
    | error d => simp [hfile, Except.toOption] at h
    | ok source => exact ⟨source, rfl⟩
  cases hfirst : files.find? fun file => (text t file).toOption.isNone with
  | none =>
      refine Or.inl ⟨fun file => (text t file).toOption.getD [], fun file hfile => ?_⟩
      obtain ⟨source, hsource⟩ := hsome (List.find?_eq_none.mp hfirst file hfile)
      show text t file = .ok ((text t file).toOption.getD [])
      rw [hsource]
      rfl
  | some file =>
      obtain ⟨hnone, before, after, rfl, hbefore⟩ := List.find?_eq_some_iff_append.mp hfirst
      cases hfile : text t file with
      | ok source => simp [hfile, Except.toOption] at hnone
      | error stop =>
          refine Or.inr ⟨before, file, after, stop, rfl, fun earlier hmem => hsome ?_, hfile⟩
          rw [Bool.not_eq_true, ← Bool.not_eq_true']
          exact hbefore earlier hmem

/-- The outcome of reading is that for the visited files, and what ended the visits if all of
them are texts. -/
theorem read_outcome (t : FileTree) (paths : List FilePath) :
    (read t paths).outcome = (readFiles t (visited t paths).1).outcome.bind fun ds =>
      match (visited t paths).2 with
      | some f => .error (.unreported f)
      | none => .ok ds := by
  rcases hvisited : visited t paths with ⟨files, stop⟩
  rw [read, hvisited]
  dsimp only
  split
  · rename_i g _ hfound
    rw [hfound]
    rfl
  · rename_i ds f hfound
    rw [hfound]
    rfl
  · rename_i ds hfound
    rw [hfound]
    rfl

/-- The first of the files that is no text is at fault, and the fault is reported. -/
def FirstFault (t : FileTree) (files : List FilePath) (f : SourceFault) : Prop :=
  ∃ before file after, files = before ++ file :: after ∧
    (∀ earlier ∈ before, ∃ source, text t earlier = .ok source) ∧
    text t file = .error (.reported f)

/-- Reading ends with a report exactly when the first file that is no text is at fault. -/
theorem read_eq_reported_iff {f : SourceFault} :
    (read t paths).outcome = .error (.reported f) ↔ FirstFault t (visited t paths).1 f := by
  constructor
  · intro h
    rw [read_outcome] at h
    rcases texts_or_first t (visited t paths).1 with
      ⟨sources, hsources⟩ | ⟨before, file, after, stop, hfiles, hbefore, hfile⟩
    · rw [readFiles_ok hsources] at h
      simp only [Except.bind] at h
      split at h <;> cases h
    · rw [hfiles, readFiles_error hbefore hfile] at h
      cases h
      exact ⟨before, file, after, hfiles, hbefore, hfile⟩
  · rintro ⟨before, file, after, hfiles, hbefore, hfile⟩
    rw [read_outcome, hfiles, readFiles_error hbefore hfile]
    rfl

/-- What reading the visited files comes to: the declarations of all of them, in order, or the
fault of the first that is no text.  Two ends are not reported: a path with a null character, and
a path for which nobody can tell what is to be visited, behind files that are all texts. -/
inductive ReadsTo (t : FileTree) (visited : List FilePath) (stop : Option FileFault) :
    Except SourceStop (List Declaration) → Prop
  | all {sources : FilePath → List Char}
      (hread : ∀ file ∈ visited, t.read file = .ok (Utf8.encode (sources file)))
      (horigin : ∀ file ∈ visited, ∀ d ∈ Java.declarations (sources file) file.text,
        d.origin = file.text) (hstop : stop = none) :
      ReadsTo t visited stop
        (.ok (visited.flatMap fun file => Java.declarations (sources file) file.text))
  | first {before after : List FilePath} {file : FilePath} {d : SourceDefect}
      (hvisited : visited = before ++ file :: after)
      (hbefore : ∀ earlier ∈ before, ∃ source, t.read earlier = .ok (Utf8.encode source))
      (hfile : Describes t file d) : ReadsTo t visited stop (.error (.reported ⟨file.text, d⟩))
  | null {before after : List FilePath} {file : FilePath}
      (hvisited : visited = before ++ file :: after)
      (hbefore : ∀ earlier ∈ before, ∃ source, t.read earlier = .ok (Utf8.encode source))
      (hfile : t.read file = .error .nullCharacter) :
      ReadsTo t visited stop (.error (.unreported .nullCharacter))
  | unknown {f : FileFault}
      (hread : ∀ file ∈ visited, ∃ source, t.read file = .ok (Utf8.encode source))
      (hstop : stop = some f) : ReadsTo t visited stop (.error (.unreported f))

theorem readsTo_read (t : FileTree) (paths : List FilePath) :
    ReadsTo t (visited t paths).1 (visited t paths).2 (read t paths).outcome := by
  rw [read_outcome]
  rcases texts_or_first t (visited t paths).1 with
    ⟨sources, hsources⟩ | ⟨before, file, after, stop, hfiles, hbefore, hfile⟩
  · have hread : ∀ file ∈ (visited t paths).1, t.read file = .ok (Utf8.encode (sources file)) :=
      fun file hfile => text_eq_ok_iff.mp (hsources file hfile)
    rw [readFiles_ok hsources]
    cases hstop : (visited t paths).2 with
    | none => exact .all hread (fun file _ => Java.origin_declarations _ _) rfl
    | some f => exact .unknown (fun file hfile => ⟨_, hread file hfile⟩) rfl
  · have hearlier : ∀ earlier ∈ before, ∃ source, t.read earlier = .ok (Utf8.encode source) := by
      intro earlier hmem
      obtain ⟨source, hsource⟩ := hbefore earlier hmem
      exact ⟨source, text_eq_ok_iff.mp hsource⟩
    rw [hfiles, readFiles_error hbefore hfile]
    rcases text_eq_error hfile with ⟨d, rfl, hd⟩ | ⟨rfl, hnull⟩
    · exact .first rfl hearlier hd
    · exact .null rfl hearlier hnull

/-! ### Open directories -/

/-- The files are all those below the place whose names end as those of sources do, by their
paths and in strictly increasing order. -/
structure ListsAll (t : FileTree) (path : FilePath) (place : FilePlace) (files : List FilePath) :
    Prop where
  mem : ∀ file, file ∈ files ↔ ∃ parts content, parts ≠ [] ∧
    t.entry? (place ++ parts) = some (.file content) ∧
    ending.toList <:+ (parts.getLast?.getD "").toList ∧ file = path.append parts
  ordered : files.Pairwise fun a b => a.parts < b.parts

/-- Where nothing is barred, a directory lists all source files below it. -/
theorem below_of_open {place : FilePlace} (hplace : t.place path = .ok place)
    (hentry : t.entry? place = some .directory) (hopen : t.OpenBelow place) :
    ∃ files, below t path = .ok files ∧ ListsAll t path place files := by
  have hdirectory := isDirectory?_of_place hplace hentry
  have hclear : ¬t.hidesBelow place ending = true := by
    intro hhides
    obtain ⟨parts, -, hsearch⟩ := FileTree.hidesBelow_iff.mp hhides
    rw [(hopen _ (List.prefix_append _ _)).2] at hsearch
    cases hsearch
  rw [below_of_directory hdirectory hplace, if_neg hclear]
  refine ⟨_, rfl, fun file => mem_filesBelow_iff.trans ?_, filesBelow_pairwise t path place⟩
  constructor
  · rintro ⟨parts, content, hnames, hfile, heq⟩
    exact ⟨parts, content, hnames.ne_nil, hfile, hnames.ending, heq⟩
  · rintro ⟨parts, content, hparts, hfile, hending, heq⟩
    exact ⟨parts, content, ⟨hparts, by rw [hfile]; rfl, hending, hopen.listed parts⟩, hfile, heq⟩

/-- A listed file can be read, or that is barred, or its path is too long. -/
theorem read_of_listed (hproper : t.Proper) {listed : List FilePath}
    (hlists : Lists t path (.ok listed)) (hfile : file ∈ listed) :
    (∃ content, t.read file = .ok content) ∨ t.read file = .error .denied ∨
      t.read file = .error .nameTooLong := by
  cases hlists with
  | other hother => exact absurd hfile List.not_mem_nil
  | @files place _ hdirectory hplace clear mem ordered =>
      obtain ⟨parts, content, hnames, hentry, rfl⟩ := (mem file).mp hfile
      have hsearch : ∀ above, above <+: parts → above ≠ parts →
          t.allows .search (place ++ above) = true := by
        intro above habove hne
        by_cases hparent : above = parts.dropLast
        · rw [hparent]
          exact clear parts hnames
        · refine hnames.listed.searched above ?_ hparent
          rw [← List.dropLast_concat_getLast hnames.ne_nil] at habove hne
          exact (List.prefix_concat_iff.mp habove).resolve_left hne
      refine (hproper.read_append hplace hnames.ne_nil hentry hsearch).imp_left fun h => ?_
      exact ⟨content, h⟩

/-- Sources in two directories.  One of them is barred, and the other holds a directory that is
named like a source. -/
def shelf : FileTree :=
  ⟨.ofList [(["w", "src", "notes.md"], []), (["w", "src", "B.java", "C.java"], [255]),
    (["w", "src", "A.java"], []), (["w", "shut", "D.java"], [])], [], ["w"],
    [(["w", "shut"], .read), (["w", "shut"], .write), (["w", "shut"], .search)]⟩

end Sources

end ServiceAtlas
