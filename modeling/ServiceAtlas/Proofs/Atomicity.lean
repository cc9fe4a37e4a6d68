/-
A run that fails writes nothing, and one that succeeds writes its outputs.

Everything that a run can be refused for is found out before anything is written: what is
wrong with the words, with the settings, with the servers of a document, or with any of the
source files.  `Refused` lists these reasons in the order in which they are looked for, so
each of them speaks of a command line for which the reasons before it do not hold.

A run that gets past all of them has text for each of its outputs, and saves one after the
other.  `saveAll_cases` says that it either saves all of them and ends well, or stops at a
fault of the file system, which no message reports.  What has been made by then stays.

None of this depends on how the text of a settings file is read as a value.
-/
import ServiceAtlas.CommandLine.Run
import ServiceAtlas.Proofs.Sources

namespace ServiceAtlas

namespace CommandLine

variable {reader : Yaml.Reader} {t t' : FileTree} {words rest : List String} {i : Invocation}
  {a : Action} {c : Command}

/-! ### Outputs -/

/-- The files that a command writes. -/
def Command.outputs (c : Command) : List FilePath :=
  match c.action with
  | .tables => [c.output.append ["endpoints.md"], c.output.append ["models.md"]]
  | _ => [c.output]

theorem products_outputs (c : Command) (style : DocumentStyle) (found : Catalog) :
    (products c style found).1.map (·.path) = c.outputs := by
  unfold products Command.outputs
  split <;> simp_all

/-- The outputs of a command are at different places. -/
theorem Command.outputs_distinct (c : Command) (t : FileTree) :
    (c.outputs.map t.destination).Nodup := by
  unfold outputs
  split
  · have hlast (name : String) (hname : name ≠ FilePath.up) :
        t.destination (c.output.append [name]) = t.destination c.output ++ [name] := by
      show List.foldl _ _ (c.output.parts ++ [name]) = _
      rw [List.foldl_append, List.foldl_cons, if_neg hname]
      rfl
    rw [List.map_cons, List.map_singleton, hlast _ (by decide), hlast _ (by decide)]
    simp
  · simp

theorem Command.short_output (h : ofWords t a words = .ok (.command c)) : c.output.Short := by
  unfold ofWords at h
  split at h
  · cases h
  · simp only [pure, bind, Except.bind, throw, throwThe, MonadExcept.throw, Except.pure] at h
    repeat' split at h
    all_goals cases h
    exact FilePath.short_ofText _

theorem Command.short_outputs (h : c.output.Short) : ∀ path ∈ c.outputs, path.Short := by
  unfold outputs
  split
  · refine List.forall_mem_cons.mpr ⟨h.append (by simp), List.forall_mem_singleton.mpr ?_⟩
    exact h.append (by simp)
  · exact List.forall_mem_singleton.mpr h

/-- The second tree differs from the first in the outputs of the command, which are files
there and none of them was a directory, and in missing directories on the way of their
parents, which are there. -/
structure Command.WroteOnly (c : Command) (t t' : FileTree) : Prop where
  base : t'.base = t.base
  outputs : ∀ path ∈ c.outputs, t'.place path = .ok (t.destination path) ∧
    t.entry? (t.destination path) ≠ some .directory ∧
    ∃ content, t'.entry? (t.destination path) = some (.file content)
  elsewhere : ∀ place, (∀ path ∈ c.outputs, place ≠ t.destination path) →
    t'.entry? place = t.entry? place ∨
      t.entry? place = none ∧ t'.entry? place = some .directory ∧
        ∃ path ∈ c.outputs, t.OnWay path.parent place

theorem Command.wroteOnly_of_writes {ws : List (FilePath × Utf8.Bytes)}
    (hpaths : ws.map Prod.fst = c.outputs) (h : t.Writes t' ws) : c.WroteOnly t t' := by
  have hdistinct : (ws.map fun w => t.destination w.1).Nodup := by
    have hnodup := c.outputs_distinct t
    rw [← hpaths, List.map_map] at hnodup
    exact hnodup
  have hmem (path : FilePath) : path ∈ c.outputs ↔ ∃ w ∈ ws, w.1 = path := by
    rw [← hpaths, List.mem_map]
  refine ⟨h.base, fun path hpath => ?_, fun place hplace => ?_⟩
  · obtain ⟨w, hw, rfl⟩ := (hmem path).mp hpath
    have hfile := h.entry?_written hdistinct hw
    refine ⟨h.leads w hw, fun hdirectory => ?_, w.2, hfile⟩
    rw [h.kept _ hdirectory] at hfile
    cases hfile
  · have hout : ∀ w ∈ ws, place ≠ t.destination w.1 :=
      fun w hw => hplace w.1 ((hmem w.1).mpr ⟨w, hw, rfl⟩)
    rcases h.entry?_elsewhere hout with hsame | ⟨hnone, hdirectory, w, hw, hon⟩
    · exact Or.inl hsame
    · exact Or.inr ⟨hnone, hdirectory, w.1, (hmem w.1).mpr ⟨w, hw, rfl⟩, hon⟩

/-! ### Saving -/

theorem writes_of_save {p : Product} (short : p.path.Short) (h : save t p = (t', none)) :
    t.Writes t' [(p.path, Utf8.encode p.text)] := by
  unfold save at h
  split at h
  · cases h
  · rename_i made hmade
    split at h
    · cases h
    · rename_i written hwrite
      cases h
      exact FileTree.writes_file short hmade hwrite

/-- Products are all saved, or the run ends without a report. -/
theorem saveAll_cases (reported : String) :
    ∀ (ps : List Product) (t : FileTree) (printed : String), (∀ p ∈ ps, p.path.Short) →
      ((saveAll t printed reported ps).exitCode = 0 ∧
          (saveAll t printed reported ps).crash = none ∧
          t.Writes (saveAll t printed reported ps).files
            (ps.map fun p => (p.path, Utf8.encode p.text))) ∨
        (saveAll t printed reported ps).exitCode ≠ 0 ∧
          (saveAll t printed reported ps).crash ≠ none := by
  intro ps
  induction ps with
  | nil => intro t printed _; exact Or.inl ⟨rfl, rfl, t.writes_nil⟩
  | cons p rest ih =>
      intro t printed hshort
      obtain ⟨hfirst, hrest⟩ := List.forall_mem_cons.mp hshort
      unfold saveAll
      split
      · rename_i t' f hsave
        exact Or.inr ⟨Nat.one_ne_zero, nofun⟩
      · rename_i t' hsave
        rcases ih t' _ hrest with ⟨hexit, hcrash, hwrites⟩ | hfault
        · exact Or.inl ⟨hexit, hcrash, (writes_of_save hfirst hsave).append hwrites⟩
        · exact Or.inr hfault

/-! ### What the words ask for -/

/-- The words call for a command, and are in order up to there. -/
structure Calls (t : FileTree) (words : List String) (i : Invocation) (a : Action)
    (rest : List String) : Prop where
  invocation : Invocation.ofWords t words = .ok i
  notEmpty : words ≠ []
  withoutHelp : i.help = false
  action : ∃ name, i.rest = name :: rest ∧ Action.names.lookup name = some a

/-- The words ask for a command with settings, and are in order. -/
inductive Asks (reader : Yaml.Reader) (t : FileTree) (words : List String) :
    Bool → Settings → Command → Prop
  | intro {i : Invocation} {a : Action} {rest : List String} {settings : Settings} {c : Command}
      (hcalls : Calls t words i a rest) (hload : Settings.load reader t i.config = .ok settings)
      (hwords : Command.ofWords t a rest = .ok (.command c)) :
      Asks reader t words i.verbose settings c

/-- The words ask how to use the program or a command. -/
inductive Helped (reader : Yaml.Reader) (t : FileTree) (words : List String) : Prop
  | program {i : Invocation} (hinvocation : Invocation.ofWords t words = .ok i)
      (hhelp : i.help = true ∨ words = [])
  | command {i : Invocation} {a : Action} {rest : List String} {settings : Settings}
      (hcalls : Calls t words i a rest) (hload : Settings.load reader t i.config = .ok settings)
      (hhelp : Command.ofWords t a rest = .ok .help)

/-- Why a run is refused: the words in front of the command, the command itself, the settings,
the words behind the command, the servers of the document, or some source file. -/
inductive Refused (reader : Yaml.Reader) (t : FileTree) (words : List String) : Prop
  | invocation {f : UsageFault} (hfault : Invocation.ofWords t words = .error f)
  | action {i : Invocation} (hinvocation : Invocation.ofWords t words = .ok i)
      (hwords : words ≠ []) (hhelp : i.help = false)
      (hnone : ∀ name rest, i.rest = name :: rest → Action.names.lookup name = none)
  | settings {i : Invocation} {a : Action} {rest : List String} {f : Settings.LoadFault}
      {message : String} (hcalls : Calls t words i a rest)
      (hfault : Settings.load reader t i.config = .error f) (hmessage : f.message? = some message)
  | arguments {i : Invocation} {a : Action} {rest : List String} {settings : Settings}
      {f : UsageFault} (hcalls : Calls t words i a rest)
      (hload : Settings.load reader t i.config = .ok settings)
      (hfault : Command.ofWords t a rest = .error f)
  | servers {verbose : Bool} {settings : Settings} {c : Command} {f : Flags.ServerFault}
      (hasks : Asks reader t words verbose settings c)
      (hfault : restyled settings.document c.info c.servers = .error f)
  | source {verbose : Bool} {settings : Settings} {c : Command} {style : DocumentStyle}
      (hasks : Asks reader t words verbose settings c)
      (hstyle : restyled settings.document c.info c.servers = .ok style)
      {f : SourceFault} (hfault : Sources.FirstFault t (Sources.visited t c.sources).1 f)

theorem Calls.run_eq (h : Calls t words i a rest) : run reader t words = runAction reader t i a rest := by
  obtain ⟨name, hrest, hname⟩ := h.action
  have hgoes : ¬(i.help || words.isEmpty) = true := by simp [h.withoutHelp, h.notEmpty]
  unfold run
  rw [h.invocation]
  dsimp only
  rw [if_neg hgoes, hrest]
  dsimp only
  rw [hname]

theorem Asks.run_eq {verbose : Bool} {settings : Settings} (h : Asks reader t words verbose settings c) :
    run reader t words = perform t verbose settings c := by
  obtain ⟨hcalls, hload, hwords⟩ := h
  rw [hcalls.run_eq, runAction, hload]
  dsimp only
  rw [hwords]

/-! ### How runs end -/

namespace Outcome

/-- The run ended with a fault that is reported, and left the files as they were. -/
structure Reported (o : Outcome) (t : FileTree) : Prop where
  exitCode : o.exitCode ≠ 0
  crash : o.crash = none
  files : o.files = t

theorem reported_misused (t : FileTree) (s : Synopsis) (f : UsageFault) :
    (misused t s f).Reported t :=
  ⟨Nat.succ_ne_zero 1, rfl, rfl⟩

theorem reported_failed (t : FileTree) (printed reported message : String) :
    (failed t printed reported message).Reported t :=
  ⟨Nat.one_ne_zero, rfl, rfl⟩

end Outcome

/-- **A run that is refused reports why and writes nothing.** -/
theorem Refused.reported (h : Refused reader t words) : (run reader t words).Reported t := by
  cases h with
  | invocation hfault =>
      unfold run
      rw [hfault]
      exact Outcome.reported_misused ..
  | @action i hinvocation hwords hhelp hnone =>
      have hgoes : ¬(i.help || words.isEmpty) = true := by simp [hhelp, hwords]
      unfold run
      rw [hinvocation]
      dsimp only
      rw [if_neg hgoes]
      cases hrest : i.rest with
      | nil => exact Outcome.reported_misused ..
      | cons name rest =>
          dsimp only
          rw [hnone name rest hrest]
          exact Outcome.reported_misused ..
  | settings hcalls hfault hmessage =>
      rw [hcalls.run_eq, runAction, hfault]
      dsimp only
      rw [hmessage]
      exact Outcome.reported_failed ..
  | arguments hcalls hload hfault =>
      rw [hcalls.run_eq, runAction, hload]
      dsimp only
      rw [hfault]
      exact Outcome.reported_misused ..
  | servers hasks hfault =>
      rw [hasks.run_eq, perform, hfault]
      exact Outcome.reported_misused ..
  | source hasks hstyle hfault =>
      rw [hasks.run_eq, perform, hstyle]
      dsimp only
      rw [produce, Sources.read_eq_reported_iff.mpr hfault]
      exact Outcome.reported_failed ..

/-- What a run can come to. -/
inductive Ends (reader : Yaml.Reader) (t : FileTree) (words : List String) (o : Outcome) : Prop
  | refused (h : Refused reader t words)
  | helped (h : Helped reader t words) (hexit : o.exitCode = 0) (hfiles : o.files = t)
  | crashed (hexit : o.exitCode ≠ 0) (hcrash : o.crash ≠ none)
  | wrote {verbose : Bool} {settings : Settings} {c : Command}
      (hasks : Asks reader t words verbose settings c) (hexit : o.exitCode = 0)
      (hfiles : c.WroteOnly t o.files)

theorem Asks.ends {verbose : Bool} {settings : Settings} (h : Asks reader t words verbose settings c) :
    Ends reader t words (perform t verbose settings c) := by
  have hshort : ∀ path ∈ c.outputs, path.Short := by
    obtain ⟨-, -, hwords⟩ := h
    exact Command.short_outputs (Command.short_output hwords)
  unfold perform
  split
  · rename_i f hfault
    exact .refused (.servers h hfault)
  · rename_i style hstyle
    unfold produce
    extract_lets sourced printed reported
    split
    · rename_i f hfault
      exact .refused (.source h hstyle (Sources.read_eq_reported_iff.mp hfault))
    · exact .crashed Nat.one_ne_zero nofun
    · split
      · exact .crashed Nat.one_ne_zero nofun
      · rename_i found notices _
        have hproducts : ∀ p ∈ (products c style found).1, p.path.Short := by
          intro p hp
          refine hshort p.path ?_
          rw [← products_outputs c style found]
          exact List.mem_map_of_mem hp
        rcases saveAll_cases _ _ t _ hproducts with ⟨hexit, -, hwrites⟩ | ⟨hexit, hcrash⟩
        · refine .wrote h hexit (Command.wroteOnly_of_writes ?_ hwrites)
          rw [List.map_map]
          exact products_outputs c style found
        · exact .crashed hexit hcrash

theorem Calls.ends (h : Calls t words i a rest) : Ends reader t words (runAction reader t i a rest) := by
  unfold runAction
  split
  · rename_i f hfault
    split
    · rename_i message hmessage
      exact .refused (.settings h hfault hmessage)
    · exact .crashed Nat.one_ne_zero nofun
  · rename_i settings hload
    split
    · rename_i f hfault
      exact .refused (.arguments h hload hfault)
    · rename_i hhelp
      exact .helped (.command h hload hhelp) rfl rfl
    · rename_i c hwords
      exact Asks.ends ⟨h, hload, hwords⟩

theorem run_ends (reader : Yaml.Reader) (t : FileTree) (words : List String) : Ends reader t words (run reader t words) := by
  unfold run
  split
  · rename_i f hfault
    exact .refused (.invocation hfault)
  · rename_i i hinvocation
    split
    · rename_i hhelp
      rw [Bool.or_eq_true, List.isEmpty_iff] at hhelp
      exact .helped (.program hinvocation hhelp) rfl rfl
    · rename_i hgoes
      rw [Bool.or_eq_true, List.isEmpty_iff, not_or, Bool.not_eq_true] at hgoes
      split
      · rename_i hrest
        exact .refused (.action hinvocation hgoes.2 hgoes.1 (by simp [hrest]))
      · rename_i name rest hrest
        split
        · rename_i a hname
          exact Calls.ends ⟨hinvocation, hgoes.2, hgoes.1, name, hrest, hname⟩
        · rename_i hname
          refine .refused (.action hinvocation hgoes.2 hgoes.1 fun other rest' heq => ?_)
          rw [hrest] at heq
          cases heq
          exact hname

/--
**A failed command writes nothing.**  The runs that end with a reported fault are those that
are refused, and they leave all files and directories as they were.  A run that ends well
shows how to use the program and changes nothing, or changes the outputs of its command and
makes missing directories on the way of their parents.
-/
theorem run_atomic (reader : Yaml.Reader) (t : FileTree) (words : List String) :
    (Refused reader t words ↔ (run reader t words).exitCode ≠ 0 ∧ (run reader t words).crash = none) ∧
      (Refused reader t words → (run reader t words).files = t) ∧
      ((run reader t words).exitCode = 0 →
        Helped reader t words ∧ (run reader t words).files = t ∨
          ∃ verbose settings c, Asks reader t words verbose settings c ∧
            c.WroteOnly t (run reader t words).files) := by
  refine ⟨⟨fun h => ⟨h.reported.exitCode, h.reported.crash⟩, ?_⟩, fun h => h.reported.files, ?_⟩
  · rintro ⟨hexit, hcrash⟩
    cases run_ends reader t words with
    | refused h => exact h
    | helped _ hzero _ => exact absurd hzero hexit
    | crashed _ hsome => exact absurd hcrash hsome
    | wrote _ hzero _ => exact absurd hzero hexit
  · intro hexit
    cases run_ends reader t words with
    | refused h => exact absurd hexit h.reported.exitCode
    | helped h _ hfiles => exact Or.inl ⟨h, hfiles⟩
    | crashed hone _ => exact absurd hexit hone
    | wrote hasks _ hfiles => exact Or.inr ⟨_, _, _, hasks, hfiles⟩

/-- A source that can be read, and one that is no text. -/
def spoiled : FileTree :=
  ⟨.ofList [(["w", "A.java"], []), (["w", "B.java"], [255])], [], ["w"], []⟩

theorem run_atomic_spoiled :
    let words := ["diagram", "A.java", "B.java", "-o", "out/map.md"]
    let outcome := run Yaml.Value.ofText spoiled words
    Refused Yaml.Value.ofText spoiled words ∧ outcome.exitCode ≠ 0 ∧ outcome.files = spoiled := by
  intro words outcome
  have hcalls : Calls spoiled words ⟨false, none, false, words⟩ .diagram (words.drop 1) :=
    ⟨rfl, nofun, rfl, _, rfl, rfl⟩
  have hasks : Asks Yaml.Value.ofText spoiled words false .standard
      ⟨.diagram, [.ofText "A.java", .ofText "B.java"], .ofText "out/map.md", none, none, none⟩ :=
    ⟨hcalls, rfl, rfl⟩
  have hrefused : Refused Yaml.Value.ofText spoiled words := by
    refine .source hasks rfl ⟨[.ofText "A.java"], .ofText "B.java", [], rfl, ?_, rfl⟩
    exact List.forall_mem_singleton.mpr ⟨[], rfl⟩
  obtain ⟨hreport, hfiles, -⟩ := run_atomic Yaml.Value.ofText spoiled words
  exact ⟨hrefused, (hreport.mp hrefused).1, hfiles hrefused⟩

example : let t : FileTree := ⟨∅, [], ["w"], []⟩
    let outcome := run Yaml.Value.ofText t ["diagram", ".", "-o", "out/map.md"]
    outcome.exitCode = 0 ∧ outcome.files.isDirectoryAt ["w", "out"] = true := by decide +kernel

end CommandLine

end ServiceAtlas
