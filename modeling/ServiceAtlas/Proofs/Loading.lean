/-
What a settings file can hold that no message reports.

Loading answers with settings or with a message for most files.  `Settings.Unreported` lists the
contents for which it does neither: bytes that are no text, a text in which the reader finds a
value that it cannot make, and a mapping with a key at the top that is not text.
`answers_iff_not_unreported` says that there are no others, whatever the reader is: all that
loading relies on is that a reader gives a value, calls the text malformed or fails.
-/
import ServiceAtlas.Proofs.Atomicity
import ServiceAtlas.Proofs.Utf8
import ServiceAtlas.Yaml.Value

namespace ServiceAtlas

namespace Settings

variable {reader : Yaml.Reader} {f : LoadFault} {bytes : Utf8.Bytes} {path : String}

/-! ### Faults without a message -/

/-- Settings, or a fault that has a message. -/
inductive Answers : Except LoadFault Settings → Prop
  | settings (s : Settings) : Answers (.ok s)
  | message {f : LoadFault} {message : String} (h : f.message? = some message) :
      Answers (.error f)

theorem answers_error_iff : Answers (.error f) ↔ f.message?.isSome = true := by
  rw [Option.isSome_iff_exists]
  constructor
  · rintro ⟨⟩
    exact ⟨_, ‹_›⟩
  · exact fun ⟨_, h⟩ => .message h

instance : DecidablePred Answers
  | .ok s => .isTrue (.settings s)
  | .error _ => decidable_of_iff _ answers_error_iff.symm

/-- Contents of a file that give no settings, and no message says why. -/
inductive Unreported (reader : Yaml.Reader) (bytes : Utf8.Bytes) : Prop
  /-- The bytes are no text. -/
  | encoding (h : ∀ text, Utf8.encode text ≠ bytes)
  /-- The reader fails, and not because the text is malformed. -/
  | value {text : List Char} {f : Yaml.Fault} (hbytes : Utf8.encode text = bytes)
      (hvalue : reader (withLineFeeds text) = .error f) (hf : f ≠ .malformed)
  /-- A key at the top is not text. -/
  | key {text : List Char} {entries : List (Yaml.Atom × Yaml.Value)} {a : Yaml.Atom}
      {v : Yaml.Value} (hbytes : Utf8.encode text = bytes)
      (hvalue : reader (withLineFeeds text) = .ok (.map entries))
      (he : (a, v) ∈ entries) (ha : isTextKey a = false)

/-- Contents that are a text go unreported for a fault of the value or for a key at the top. -/
theorem unreported_encode_iff (text : List Char) :
    Unreported reader (Utf8.encode text) ↔
      (∃ f, reader (withLineFeeds text) = .error f ∧ f ≠ .malformed) ∨
        ∃ entries, reader (withLineFeeds text) = .ok (.map entries) ∧
          ∃ e ∈ entries, isTextKey e.1 = false := by
  constructor
  · intro h
    cases h with
    | encoding h => exact absurd rfl (h text)
    | value hbytes hvalue hf =>
        cases Utf8.encode_inj.mp hbytes
        exact Or.inl ⟨_, hvalue, hf⟩
    | key hbytes hvalue he ha =>
        cases Utf8.encode_inj.mp hbytes
        exact Or.inr ⟨_, hvalue, _, he, ha⟩
  · rintro (⟨f, hvalue, hf⟩ | ⟨entries, hvalue, ⟨a, v⟩, he, ha⟩)
    · exact .value rfl hvalue hf
    · exact .key rfl hvalue he ha

/-- Of the values only mappings with other keys than text are left without an answer. -/
theorem answers_ofValue_iff (v : Yaml.Value) :
    Answers (ofValue path v) ↔
      ¬∃ entries, v = .map entries ∧ ∃ e ∈ entries, isTextKey e.1 = false := by
  unfold ofValue
  split
  · exact iff_of_true (.settings standard) nofun
  · rename_i entries
    have hkeys : (entries.all fun e => isTextKey e.1) = true ↔
        ¬∃ entries', Yaml.Value.map entries = .map entries' ∧
          ∃ e ∈ entries', isTextKey e.1 = false := by
      simp
    rw [← hkeys]
    split
    · rename_i hall
      refine iff_of_true ?_ hall
      split
      · exact .settings _
      · exact .message rfl
    · rename_i hall
      exact iff_of_false nofun hall
  · rename_i hmap
    refine iff_of_true (.message rfl) ?_
    rintro ⟨entries, h, -⟩
    exact hmap entries h

theorem answers_ofBytes_iff (reader : Yaml.Reader) (path : String) (bytes : Utf8.Bytes) :
    Answers (ofBytes reader path bytes) ↔ ¬Unreported reader bytes := by
  unfold ofBytes
  split
  · rename_i d hdecode
    exact iff_of_false nofun (not_not_intro (.encoding (Utf8.encode_ne_of_decode hdecode)))
  · rename_i text hdecode
    rw [← Utf8.decode_eq_ok_iff.mp hdecode, unreported_encode_iff]
    unfold ofText
    split
    · rename_i f hvalue
      have hmessage : Answers (.error (.noValue path f)) ↔ f = .malformed := by
        by_cases hf : f = .malformed <;> simp [answers_error_iff, LoadFault.message?, hf]
      simp [hmessage, hvalue]
    · rename_i v hvalue
      simp [answers_ofValue_iff, hvalue]

/-- Of the faults of files only a null character in the path has no message. -/
theorem answers_unreadable_iff {g : FileFault} :
    Answers (.error (.unreadable path g)) ↔ g ≠ .nullCharacter := by
  cases g <;> simp [answers_error_iff, LoadFault.message?, FileFault.number?]

/-- The file is there but loading it has no answer, or its path has a null character. -/
def FailsOn (reader : Yaml.Reader) (t : FileTree) (path : FilePath) : Prop :=
  t.read path = .error .nullCharacter ∨ ∃ bytes, t.read path = .ok bytes ∧ Unreported reader bytes

theorem answers_load_iff (reader : Yaml.Reader) (t : FileTree) (path : FilePath) :
    Answers (load reader t (some path)) ↔ ¬FailsOn reader t path := by
  unfold load FailsOn
  split
  · rename_i heq
    cases heq
  · rename_i path' heq
    cases heq
    split
    · rename_i f hread
      simp [hread, answers_unreadable_iff]
    · rename_i bytes hread
      simp [hread, answers_ofBytes_iff]

end Settings

namespace CommandLine

open Settings (Answers FailsOn Unreported)

variable {t : FileTree} {words rest : List String} {i : Invocation} {a : Action}
  {f : Settings.LoadFault}

/-! ### Runs -/

theorem saveAll_crash (reported : String) :
    ∀ (ps : List Product) (t : FileTree) (printed : String),
      (saveAll t printed reported ps).crash ≠ some (.settings f) := by
  intro ps
  induction ps with
  | nil => exact fun t printed => nofun
  | cons p rest ih =>
      intro t printed
      unfold saveAll
      split
      · nofun
      · exact ih _ _

/-- Performing a command does not end for the settings. -/
theorem perform_crash (t : FileTree) (verbose : Bool) (settings : Settings) (c : Command) :
    (perform t verbose settings c).crash ≠ some (.settings f) := by
  unfold perform
  split
  · nofun
  · unfold produce
    extract_lets sourced printed reported
    split
    · nofun
    · nofun
    · split
      · nofun
      · exact saveAll_crash _ _ _ _

/-- A run ends without a report of its settings exactly when loading gives no answer. -/
theorem runAction_crash_iff (reader : Yaml.Reader) (t : FileTree) (i : Invocation) (a : Action)
    (rest : List String) :
    (∃ f, (runAction reader t i a rest).crash = some (.settings f)) ↔
      ¬Answers (Settings.load reader t i.config) := by
  unfold runAction
  split
  · rename_i f hload
    rw [hload]
    split
    · rename_i message hmessage
      exact iff_of_false nofun (not_not_intro (.message hmessage))
    · rename_i hnone
      refine iff_of_true ⟨f, rfl⟩ ?_
      rw [Settings.answers_error_iff, hnone]
      nofun
  · rename_i settings hload
    rw [hload]
    refine iff_of_false ?_ (not_not_intro (.settings settings))
    rintro ⟨f, hf⟩
    revert hf
    split
    · nofun
    · nofun
    · exact perform_crash _ _ _ _

/--
**Settings are loaded with an answer unless the contents of the file are one of three.**  For
every reader, a file that cannot be read is reported, and so is one whose text is malformed, is
no mapping or has wrong members; what is left, besides paths with a null character, are the
contents that `Unreported` lists.  A run that names the file ends without a report for its
settings in the same cases, and otherwise with the message if loading has failed.
-/
theorem answers_iff_not_unreported (reader : Yaml.Reader) (t : FileTree) (path : FilePath) :
    (Answers (Settings.load reader t (some path)) ↔ ¬FailsOn reader t path) ∧
      ∀ words i a rest, Calls t words i a rest → i.config = some path →
        ((∃ f, (run reader t words).crash = some (.settings f)) ↔ FailsOn reader t path) ∧
          ∀ f message, Settings.load reader t (some path) = .error f →
            f.message? = some message → run reader t words = .failed t "" "" message := by
  refine ⟨Settings.answers_load_iff reader t path, fun words i a rest hcalls hconfig => ⟨?_, ?_⟩⟩
  · rw [hcalls.run_eq, runAction_crash_iff, hconfig, Settings.answers_load_iff, not_not]
  · intro f message hload hmessage
    rw [hcalls.run_eq, runAction, hconfig, hload]
    dsimp only
    rw [hmessage]

/-- A directory with a source, and a settings file with the given contents. -/
def configured (bytes : Utf8.Bytes) : FileTree :=
  ⟨.ofList [(["w", "A.java"], []), (["w", "settings.yaml"], bytes)], [], ["w"], []⟩

/-- The text `a: 2020-13-45` has a date that does not exist. -/
theorem answers_iff_not_unreported_date :
    let reader := Yaml.Value.ofText
    let t := configured (Utf8.encode "a: 2020-13-45".toList)
    let words := ["--config", "settings.yaml", "diagram", "A.java", "-o", "map.md"]
    FailsOn reader t (.ofText "settings.yaml") ∧
      ∃ f, (run reader t words).crash = some (.settings f) := by
  intro reader t words
  have hcalls : Calls t words
      ⟨false, some (.ofText "settings.yaml"), false, words.drop 2⟩ .diagram (words.drop 3) :=
    ⟨rfl, nofun, rfl, _, rfl, rfl⟩
  have hnone : ¬Answers (Settings.load reader t (some (.ofText "settings.yaml"))) := by
    decide +kernel
  obtain ⟨hload, hrun⟩ := answers_iff_not_unreported reader t (.ofText "settings.yaml")
  have hfails : FailsOn reader t (.ofText "settings.yaml") := not_imp_comm.mp hload.mpr hnone
  exact ⟨hfails, (hrun words _ _ _ hcalls rfl).1.mpr hfails⟩

/-- A number as a key, the text `1: 2`, is not reported. -/
theorem not_answers_number_key :
    ¬∀ (t : FileTree) (path : FilePath) (bytes : Utf8.Bytes), t.read path = .ok bytes →
      Answers (Settings.load Yaml.Value.ofText t (some path)) := by
  intro h
  have hread : (configured [49, 58, 32, 50]).read (.ofText "settings.yaml")
      = .ok [49, 58, 32, 50] := rfl
  have hnone : ¬Answers (Settings.load Yaml.Value.ofText (configured [49, 58, 32, 50])
      (some (.ofText "settings.yaml"))) := by decide +kernel
  exact hnone (h _ _ _ hread)

end CommandLine

end ServiceAtlas
