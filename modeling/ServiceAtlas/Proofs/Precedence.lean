/-
Documentation comes before annotations, and annotations alone deprecate.

The last annotation that says anything decides among annotations, since each overwrites what
those before it wrote.  Documentation is read after all of them: its description and its notes
on deprecation replace theirs, while a version that an annotation names is kept.  Whether a
record is deprecated is never asked of the documentation.
-/
import ServiceAtlas.Proofs.Catalog
import ServiceAtlas.Proofs.Overwriting

namespace ServiceAtlas

/-- The text, unless it is empty. -/
def nonEmpty? (text : String) : Option String :=
  if text.isEmpty then none else some text

/-! ### What annotations say last -/

namespace Mark

variable {marks : List Mark} {names keys : List String} {α β : Type}

/-- What annotations with one of the names say with the first of the keys that is present; the
last one counts of those that say anything. -/
def lastSaid? (marks : List Mark) (names keys : List String) : Option String :=
  marks.reverse.findSome? fun a => a.only names (a.said? keys)

theorem only_map (a : Mark) (f : α → β) (value : Option α) :
    a.only names (value.map f) = (a.only names value).map f := by
  unfold only
  split <;> rfl

/-- A place that may hold no text holds what was said last. -/
theorem getD_findSome?_map_some :
    (marks.reverse.findSome? fun a => a.only names ((a.said? keys).map some)).getD none
      = lastSaid? marks names keys := by
  have hmap : (marks.reverse.findSome? fun a => a.only names ((a.said? keys).map some))
      = (lastSaid? marks names keys).map some := by
    simp only [lastSaid?, only_map, List.map_findSome?]
    rfl
  rw [hmap]
  cases lastSaid? marks names keys <;> rfl

theorem nonEmpty_of_said? {a : Mark} {text : String} (h : a.said? keys = some text) :
    nonEmpty? text = some text := by
  unfold said? at h
  split at h
  · cases h
  · split at h
    · cases h
    · rename_i hfull
      cases h
      exact if_neg hfull

theorem nonEmpty_of_lastSaid? {text : String} (h : lastSaid? marks names keys = some text) :
    nonEmpty? text = some text := by
  obtain ⟨a, -, ha⟩ := List.exists_of_findSome?_eq_some h
  unfold only at ha
  split at ha
  · exact nonEmpty_of_said? ha
  · cases ha

/-- A place that annotations of one name set is set if there is such an annotation. -/
theorem findSome?_only_true {name : String} :
    (marks.reverse.findSome? fun a => a.only [name] (some true)).getD false = true
      ↔ ∃ a ∈ marks, a.name = name := by
  cases hfound : marks.reverse.findSome? fun a => a.only [name] (some true) with
  | none =>
      have hnone : ∀ a ∈ marks, a.name ≠ name := by
        intro a ha hname
        have hwrites := List.findSome?_eq_none_iff.mp hfound a (List.mem_reverse.mpr ha)
        simp [only, hname] at hwrites
      simpa using hnone
  | some b =>
      obtain ⟨a, ha, hwrites⟩ := List.exists_of_findSome?_eq_some hfound
      unfold only at hwrites
      split at hwrites
      · rename_i hname
        cases hwrites
        exact iff_of_true rfl ⟨a, List.mem_reverse.mp ha, List.mem_singleton.mp hname⟩
      · cases hwrites

end Mark

/-! ### What documentation changes -/

theorem Property.document_eq (p : Property) (d : Documentation) : p.document d = { p with
    description := (nonEmpty? d.description).getD p.description
    deprecationNotes := (d.deprecated.bind nonEmpty?).or p.deprecationNotes } := by
  unfold document nonEmpty?
  cases d.deprecated with
  | none => by_cases h : d.description = "" <;> simp [h]
  | some notes =>
      by_cases h : d.description = "" <;> by_cases hnotes : notes = "" <;> simp [h, hnotes]

/-- A version that is known already is kept. -/
theorem Model.document_eq (m : Model) (d : Documentation) : m.document d = { m with
    description := (nonEmpty? d.description).getD m.description
    deprecationNotes := (d.deprecated.bind nonEmpty?).or m.deprecationNotes
    since := if d.since = "" then m.since else (m.since.bind nonEmpty?).or (some d.since) } := by
  unfold document
  extract_lets described noted
  have hnoted : noted = { m with
      description := (nonEmpty? d.description).getD m.description
      deprecationNotes := (d.deprecated.bind nonEmpty?).or m.deprecationNotes } := by
    dsimp only [noted, described, nonEmpty?]
    cases d.deprecated with
    | none => by_cases h : d.description = "" <;> simp [h]
    | some notes =>
        by_cases h : d.description = "" <;> by_cases hnotes : notes = "" <;>
          simp [h, hnotes, nonEmpty?]
  rw [hnoted]
  by_cases h : d.since = ""
  · simp [h]
  · cases hsince : m.since with
    | none => simp [h]
    | some text =>
        by_cases htext : text = ""
        · simp [h, htext, nonEmpty?]
        · have hkept : m.since = (m.since.bind nonEmpty?).or (some d.since) := by
            simp [hsince, nonEmpty?, htext]
          simp [h, htext, ← hsince, ← hkept]

/-! ### What a record says of itself -/

open Mark EffectTable

namespace Property

/-- The property says of itself what the annotations say of it. -/
structure FollowsMarks (p : Property) (marks : List Mark) : Prop where
  description : p.description
    = (lastSaid? marks ["Schema", "ApiModelProperty"] ["description", "value", "notes"]).getD ""
  deprecated : p.deprecated = true ↔ ∃ a ∈ marks, a.name = "Deprecated"
  deprecationNotes : p.deprecationNotes = lastSaid? marks ["Deprecated"] ["message", "notes"]

/-- The property says of itself what its documentation says, and what the annotations say where
the documentation is silent. -/
structure FollowsDocumentation (p : Property) (marks : List Mark) (d : Documentation) : Prop where
  description : p.description = ((nonEmpty? d.description).or
    (lastSaid? marks ["Schema", "ApiModelProperty"] ["description", "value", "notes"])).getD ""
  deprecated : p.deprecated = true ↔ ∃ a ∈ marks, a.name = "Deprecated"
  deprecationNotes : p.deprecationNotes = (d.deprecated.bind nonEmpty?).or
    (lastSaid? marks ["Deprecated"] ["message", "notes"])

theorem followsMarks_plain (name : String) (type : Option TypeRef) (marks : List Mark) :
    (standard.applyToProperty marks (plain name type)).1.FollowsMarks marks := by
  have hheld := held_applyToProperty marks (plain name type)
  refine ⟨hheld .description, ?_, (hheld .deprecationNotes).trans getD_findSome?_map_some⟩
  rw [← findSome?_only_true]
  exact Eq.congr (hheld .deprecated) rfl

theorem FollowsMarks.document {p : Property} {marks : List Mark} (h : p.FollowsMarks marks)
    (d : Documentation) : (p.document d).FollowsDocumentation marks d := by
  rw [document_eq]
  refine ⟨?_, h.deprecated, ?_⟩
  · dsimp only
    rw [h.description, Option.getD_or]
  · dsimp only
    rw [h.deprecationNotes]

end Property

namespace Model

/-- The model says of itself what the annotations say of it. -/
structure FollowsMarks (m : Model) (marks : List Mark) : Prop where
  description : m.description = (lastSaid? marks ["ApiModel", "Schema"] ["description"]).getD ""
  deprecated : m.deprecated = true ↔ ∃ a ∈ marks, a.name = "Deprecated"
  deprecationNotes : m.deprecationNotes = lastSaid? marks ["Deprecated"] ["message", "notes"]
  since : m.since = lastSaid? marks ["Deprecated"] ["since"]

/-- The model says of itself what its documentation says, and what the annotations say where
the documentation is silent; of versions, that of the annotations comes first. -/
structure FollowsDocumentation (m : Model) (marks : List Mark) (d : Documentation) : Prop where
  description : m.description = ((nonEmpty? d.description).or
    (lastSaid? marks ["ApiModel", "Schema"] ["description"])).getD ""
  deprecated : m.deprecated = true ↔ ∃ a ∈ marks, a.name = "Deprecated"
  deprecationNotes : m.deprecationNotes = (d.deprecated.bind nonEmpty?).or
    (lastSaid? marks ["Deprecated"] ["message", "notes"])
  since : m.since = (lastSaid? marks ["Deprecated"] ["since"]).or (nonEmpty? d.since)

theorem followsMarks_applyToModel {m : Model} (hdescription : m.description = "")
    (hdeprecated : m.deprecated = false) (hnotes : m.deprecationNotes = none)
    (hsince : m.since = none) (marks : List Mark) :
    (standard.applyToModel marks m).FollowsMarks marks := by
  have hheld := held_applyToModel marks m
  refine ⟨?_, ?_, ?_, ?_⟩
  · exact hdescription ▸ hheld .description
  · rw [← findSome?_only_true, ← hdeprecated]
    exact Eq.congr (hheld .deprecated) rfl
  · rw [← getD_findSome?_map_some, ← hnotes]
    exact hheld .deprecationNotes
  · rw [← getD_findSome?_map_some, ← hsince]
    exact hheld .since

/-- Supertypes are not what a model says of itself. -/
theorem FollowsMarks.withSupertypes {m : Model} {marks : List Mark} (h : m.FollowsMarks marks)
    (extended implemented : List String) :
    { m with extended := extended, implemented := implemented }.FollowsMarks marks :=
  ⟨h.description, h.deprecated, h.deprecationNotes, h.since⟩

/-- Properties are not what a model says of itself. -/
theorem FollowsDocumentation.withProperties {m : Model} {marks : List Mark} {d : Documentation}
    (h : m.FollowsDocumentation marks d) (properties : List Property) :
    { m with properties := properties }.FollowsDocumentation marks d :=
  ⟨h.description, h.deprecated, h.deprecationNotes, h.since⟩

theorem FollowsMarks.document {m : Model} {marks : List Mark} (h : m.FollowsMarks marks)
    (d : Documentation) : (m.document d).FollowsDocumentation marks d := by
  rw [document_eq]
  refine ⟨?_, h.deprecated, ?_, ?_⟩
  · dsimp only
    rw [h.description, Option.getD_or]
  · dsimp only
    rw [h.deprecationNotes]
  · dsimp only
    rw [h.since]
    cases hsaid : lastSaid? marks ["Deprecated"] ["since"] with
    | none => by_cases hd : d.since = "" <;> simp [hd, nonEmpty?]
    | some since =>
        have hkept := nonEmpty_of_lastSaid? hsaid
        by_cases hd : d.since = "" <;> simp [hd, hkept]

end Model

/-! ### Declarations -/

namespace Survey

variable (d : Declaration)

theorem yields_property_follows (name : String) (type : WrittenType) (marks : List Mark)
    (documentation : Documentation) :
    (property .standard name type marks documentation).Yields fun p =>
      p.name = name ∧ p.FollowsDocumentation marks documentation := by
  refine (yields_trivial _).bind fun r _ => (yields_trivial _).bind fun _ _ => yields_pure ?_
  refine ⟨?_, (Property.followsMarks_plain name (some r) marks).document documentation⟩
  rw [Property.document_eq]
  exact name_applyToProperty marks (.plain name (some r))

/-- The fields that instances can be given a value for, each with its own annotations and
documentation, are the properties of a class. -/
def ClassDocumented (m : Model) : Prop :=
  m.FollowsDocumentation d.marks d.documentation ∧
    List.Forall₂ (fun f p => p.name = f.name ∧ p.FollowsDocumentation f.marks f.documentation)
      (d.fields.filter fun f => !(f.isStatic || f.isFinal)) m.properties

/-- Each property of an interface has the annotations and the documentation of its first
accessor. -/
def InterfaceDocumented (m : Model) : Prop :=
  m.FollowsDocumentation d.marks d.documentation ∧
    ∀ p ∈ m.properties, ∃ accessor,
      d.methods.find? (fun method => method.accessedProperty? = some p.name) = some accessor ∧
        p.FollowsDocumentation accessor.marks accessor.documentation

/-- A constant of an enumeration has a description and no type, whatever its annotations. -/
def EnumDocumented (m : Model) : Prop :=
  m.FollowsDocumentation d.marks d.documentation ∧
    List.Forall₂ (fun c p => p.name = c.name ∧ p.description = c.documentation.description ∧
      p.type = none) d.constants m.properties

theorem yields_classModel_documented : (classModel .standard d).Yields (ClassDocumented d) := by
  have hmarks := Model.followsMarks_applyToModel (m := .plain d.name) rfl rfl rfl rfl d.marks
  have hfield (f : Field) := yields_property_follows f.name f.type f.marks f.documentation
  refine (yields_each_forall₂ (f := fieldProperty .standard) hfield _).bind fun ps hps =>
    yields_pure ⟨?_, hps⟩
  exact ((hmarks.withSupertypes _ _).document d.documentation).withProperties ps

theorem yields_interfaceModel_documented :
    (interfaceModel .standard d).Yields (InterfaceDocumented d) := by
  have hmarks := Model.followsMarks_applyToModel
    (m := { Model.plain d.name with isInterface := true }) rfl rfl rfl rfl d.marks
  refine (yields_each fun a ha => ?_).bind fun ps hps => yields_pure ⟨?_, hps⟩
  · intro p ns hp
    have hfollows := yields_property_follows a.1 a.2.returnType a.2.marks a.2.documentation p ns hp
    exact ⟨a.2, hfollows.1 ▸ (find?_of_mem_accessors ha).2, hfollows.2⟩
  · exact ((hmarks.withSupertypes _ _).document d.documentation).withProperties ps

theorem enumModel_documented : EnumDocumented d (enumModel .standard d) := by
  have hmarks := Model.followsMarks_applyToModel
    (m := { Model.plain d.name with isEnum := true }) rfl rfl rfl rfl d.marks
  refine ⟨((hmarks.withSupertypes _ _).document d.documentation).withProperties _, ?_⟩
  unfold enumModel
  rw [List.forall₂_map_right_iff, List.forall₂_same]
  exact fun c _ => ⟨rfl, rfl, rfl⟩

/--
**Documentation comes before annotations, and annotations alone deprecate.**  The model of a
class, of an enumeration and of an interface, and each of its properties, has the description
and the notes on deprecation of its own documentation if it has any, else those of the last of
its own annotations that gives any; a model has the version that an annotation gives, else that
of its documentation.  A constant has only what its documentation says.
-/
theorem documentation_precedes_marks :
    (classModel .standard d).Yields (ClassDocumented d) ∧
      (interfaceModel .standard d).Yields (InterfaceDocumented d) ∧
      EnumDocumented d (enumModel .standard d) ∧
      (d.WellTyped → (classModel .standard d).Succeeds ∧ (interfaceModel .standard d).Succeeds) :=
  ⟨yields_classModel_documented d, yields_interfaceModel_documented d, enumModel_documented d,
    fun wt => ⟨classModel_succeeds wt, interfaceModel_succeeds wt⟩⟩

/-- A class that two annotations deprecate and two describe, with a field that only annotations
speak of. -/
def retired : Declaration :=
  { Declaration.bare "Cart" "shop" .plainClass with
    marks := [⟨"Deprecated", .ofList [("since", "\"3\""), ("message", "\"use Basket\"")]⟩,
      ⟨"ApiModel", .ofList [("description", "\"Legacy cart\"")]⟩,
      ⟨"Schema", .ofList [("description", "\"\"")]⟩, ⟨"Deprecated", .ofList [("message", "\"\"")]⟩]
    documentation := ⟨"", ∅, "", some "", "2"⟩
    fields := [⟨"items", .simple "Items", [⟨"Schema", .ofList [("value", "\"All items\""),
      ("notes", "\"Not shown\"")]⟩], .none, []⟩] }

theorem documentation_precedes_marks_retired :
    retired.WellTyped ∧ ∃ m ns, classModel .standard retired = .ok (m, ns) ∧
      (m.description = "Legacy cart" ∧ m.deprecationNotes = some "use Basket" ∧
        m.since = some "3" ∧ m.properties.map (·.description) = ["All items"]) ∧
      ClassDocumented retired m := by
  obtain ⟨m, ns, hm, htexts⟩ : ∃ m ns, classModel .standard retired = .ok (m, ns) ∧
      (m.description = "Legacy cart" ∧ m.deprecationNotes = some "use Basket" ∧
        m.since = some "3" ∧ m.properties.map (·.description) = ["All items"]) :=
    ⟨_, _, rfl, by decide⟩
  exact ⟨by decide, m, ns, hm, htexts, (documentation_precedes_marks retired).1 m ns hm⟩

end Survey

end ServiceAtlas
