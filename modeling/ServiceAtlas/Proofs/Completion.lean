/-
A run always comes to its end, and every record on the way is valid.

Three things could stop a run.  A written type may have no reference; that is excluded by the
types being well formed, and by nothing else, since an annotation that cannot be read leaves
the record as it is.  A record may be refused because a base name is empty; `Yields` carries
the validity of what a survey returns through all of its steps, whatever the survey reads.
The search for the identifier of a box may go on for ever; it ends with a free one.
-/
import ServiceAtlas.OpenApi.Document
import ServiceAtlas.Proofs.Catalog
import ServiceAtlas.Proofs.Identifiers
import ServiceAtlas.Proofs.OrderedMap

namespace ServiceAtlas

/-! ### Valid records -/

namespace TypeRef

mutual

/-- No base name of the reference is empty. -/
def isValid : TypeRef → Bool
  | mk base args => !base.isEmpty && areValid args

/-- All references of a list are valid. -/
def areValid : List TypeRef → Bool
  | [] => true
  | r :: rs => isValid r && areValid rs

end

mutual

/-- A reference that is made is valid, whatever it is made from. -/
theorem isValid_of_ofWritten :
    ∀ {t : WrittenType} {r : TypeRef}, ofWritten t = .ok r → r.isValid = true
  | .mk _ [] true, _, h => by simp [ofWritten] at h
  | .mk _ (element :: _) true, r, h => by
      rw [ofWritten] at h
      split at h
      · cases h
      · rename_i s hs
        cases h
        simp [isValid, areValid, isValid_of_ofWritten hs, arrayBase]
  | .mk name args false, r, h => by
      rw [ofWritten] at h
      split at h
      · cases h
      · rename_i rs hrs
        split at h
        · cases h
        · rename_i hname
          cases h
          simp [isValid, areValid_of_ofWrittenArgs hrs, hname]

theorem areValid_of_ofWrittenArgs :
    ∀ {ts : List WrittenType} {rs : List TypeRef}, ofWrittenArgs ts = .ok rs → areValid rs = true
  | [], _, h => by cases h; rfl
  | t :: ts, rs, h => by
      rw [ofWrittenArgs] at h
      split at h
      · cases h
      · rename_i r hr
        split at h
        · cases h
        · rename_i rest hrest
          cases h
          have htail := areValid_of_ofWrittenArgs hrest
          split
          · exact htail
          · simp [areValid, isValid_of_ofWritten hr, htail]

end

end TypeRef

/-- The type of the property is valid, if it has one. -/
def Property.Valid (p : Property) : Prop :=
  ∀ t ∈ p.type, t.isValid = true

/-- All properties of the model are valid. -/
def Model.Valid (m : Model) : Prop :=
  ∀ p ∈ m.properties, p.Valid

/-- All types of the endpoint are valid. -/
structure Endpoint.Valid (e : Endpoint) : Prop where
  parameters : ∀ p ∈ e.parameters, p.type.isValid = true
  requestBody : ∀ t ∈ e.requestBody, t.isValid = true
  response : e.response.isValid = true

/-- All records of the catalog are valid. -/
structure Catalog.Valid (c : Catalog) : Prop where
  endpoints : ∀ e ∈ c.endpoints, e.Valid
  models : ∀ m ∈ c.models, m.Valid

/-! ### Annotations leave the type of a property alone -/

/-- A property that is only rewritten under a condition keeps its type if the rewriting does. -/
theorem Property.type_ite {c : Prop} [Decidable c] {p q : Property} (h : q.type = p.type) :
    (if c then p else q).type = p.type := by
  split
  · rfl
  · exact h

/-- The effect does not change types. -/
def PropertyEffect.KeepsType (effect : PropertyEffect) : Prop :=
  ∀ a p, (effect a p).1.type = p.type

namespace PropertyEffect

theorem keepsType_lengthBound (key rule : String) : (lengthBound key rule).KeepsType := by
  intro a p
  unfold lengthBound
  split
  · rfl
  · split <;> rfl

theorem keepsType_size : size.KeepsType := by
  intro a p
  unfold size
  split
  rename_i q _ hlow
  split
  rename_i r _ hhigh
  have hq := keepsType_lengthBound "min" "minLength" a p
  have hr := keepsType_lengthBound "max" "maxLength" a q
  rw [hlow] at hq
  rw [hhigh] at hr
  exact hr.trans hq

theorem keepsType_bound (rule : String) : (bound rule).KeepsType := by
  intro a p
  unfold bound
  split
  · rfl
  · split <;> rfl

theorem keepsType_pattern : pattern.KeepsType := by
  intro a p
  unfold pattern
  split <;> rfl

theorem keepsType_markDeprecated : markDeprecated.KeepsType := by
  intro a p
  unfold markDeprecated
  dsimp only
  split
  · rfl
  · exact Property.type_ite rfl

theorem keepsType_describe : describe.KeepsType := by
  intro a p
  unfold describe
  extract_lets described sampled
  have hdescribed : described.type = p.type := by
    dsimp only [described]
    split
    · rfl
    · exact Property.type_ite rfl
  have hsampled : sampled.type = described.type := by
    dsimp only [sampled]
    split <;> rfl
  rw [← hdescribed, ← hsampled]
  dsimp only
  split <;> rfl

end PropertyEffect

namespace EffectTable

open PropertyEffect

/-- No effect on a property changes its type. -/
def KeepsTypes (effects : EffectTable) : Prop :=
  ∀ marks p, (effects.applyToProperty marks p).1.type = p.type

theorem keepsTypes_of_effects {effects : EffectTable}
    (h : ∀ name effect, effects.properties.get? name = some effect → effect.KeepsType) :
    effects.KeepsTypes := by
  intro marks
  induction marks with
  | nil => intro p; rfl
  | cons a rest ih =>
      intro p
      have hfirst : (effects.onProperty p a).1.type = p.type := by
        unfold onProperty
        split
        · rename_i effect heffect
          exact h _ _ heffect a p
        · rfl
      exact (ih _).trans hfirst

theorem keepsTypes_standard : standard.KeepsTypes := by
  refine keepsTypes_of_effects fun name effect heffect => ?_
  have hmem := OrderedMap.mem_of_get?_ofList heffect
  revert hmem
  simp only [List.mem_cons, Prod.mk.injEq, List.not_mem_nil, or_false]
  rintro (⟨-, rfl⟩ | ⟨-, rfl⟩ | ⟨-, rfl⟩ | ⟨-, rfl⟩ | ⟨-, rfl⟩ | ⟨-, rfl⟩ | ⟨-, rfl⟩ |
    ⟨-, rfl⟩ | ⟨-, rfl⟩ | ⟨-, rfl⟩ | ⟨-, rfl⟩ | ⟨-, rfl⟩ | ⟨-, rfl⟩)
  -- In the order of the table.
  exacts [fun _ _ => rfl, fun _ _ => rfl, fun _ _ => rfl, keepsType_size, keepsType_bound _,
    keepsType_bound _, keepsType_bound _, keepsType_bound _, keepsType_pattern, fun _ _ => rfl,
    keepsType_markDeprecated, keepsType_describe, keepsType_describe]

end EffectTable

theorem Property.type_document (p : Property) (d : Documentation) :
    (p.document d).type = p.type := by
  unfold document
  extract_lets described
  have hdescribed : described.type = p.type := type_ite rfl
  rw [← hdescribed]
  split
  · rfl
  · exact type_ite rfl

/-! ### What surveys return -/

namespace Survey

variable {h : Heuristics} {effects : EffectTable} {d : Declaration} {m : Method}

theorem yields_typeRef (t : WrittenType) : (typeRef t).Yields fun r => r.isValid = true := by
  intro r ns hr
  unfold typeRef at hr
  split at hr
  · cases hr
  · rename_i s hs
    cases hr
    exact TypeRef.isValid_of_ofWritten hs

theorem yields_requestParameter (p : Parameter) (a : Mark) (place : Place) (required : Bool) :
    (requestParameter m p a place required).Yields fun q => q.type.isValid = true :=
  (yields_typeRef p.type).bind fun _ hr => yields_pure hr

theorem yields_requestParameters :
    (requestParameters h m).Yields fun ps => ∀ p ∈ ps, p.type.isValid = true :=
  yields_requestParameters_of (fun p a => yields_requestParameter p a _ _)
    fun p a _ => yields_requestParameter p a _ _

theorem yields_requestBody :
    (requestBody h m).Yields fun body => ∀ t ∈ body, t.isValid = true := by
  unfold requestBody
  split
  · exact yields_pure nofun
  · rename_i p hp
    exact Yields.map fun r ns hr _ hmem =>
      Option.mem_some_iff.mp hmem ▸ yields_typeRef p.type r ns hr

theorem yields_endpoint (mapping : Mark) (verb : Verb) :
    (endpoint h d m mapping verb).Yields Endpoint.Valid :=
  yields_requestParameters.bind fun _ hparameters => yields_requestBody.bind fun _ hbody =>
    (yields_typeRef m.returnType).bind fun _ hresponse =>
      yields_pure ⟨hparameters, hbody, hresponse⟩

theorem yields_endpoints : (endpoints h d).Yields fun es => ∀ e ∈ es, e.Valid := by
  have hmethod (m : Method) : (endpoint? h d m).Yields fun found => ∀ e ∈ found, e.Valid := by
    unfold endpoint?
    split
    · exact yields_pure nofun
    · split
      · exact (yields_trivial _).bind fun _ _ => yields_pure nofun
      · exact Yields.map fun e ns he _ hmem =>
          Option.mem_some_iff.mp hmem ▸ yields_endpoint _ _ e ns he
  refine (yields_each fun m _ => hmethod m).bind fun found hfound =>
    (yields_trivial _).bind fun _ _ => yields_pure ?_
  intro e he
  obtain ⟨e', he', hsome⟩ := List.mem_filterMap.mp he
  exact hfound e' he' e hsome

theorem yields_property (hk : effects.KeepsTypes) (name : String) (type : WrittenType)
    (marks : List Mark) (documentation : Documentation) :
    (property effects name type marks documentation).Yields Property.Valid := by
  refine (yields_typeRef type).bind fun r hr => (yields_trivial _).bind fun _ _ => yields_pure ?_
  intro t ht
  rw [Property.type_document, hk] at ht
  exact Option.mem_some_iff.mp ht ▸ hr

theorem yields_interfaceModel (hk : effects.KeepsTypes) (d : Declaration) :
    (interfaceModel effects d).Yields Model.Valid :=
  (yields_each fun _ _ => yields_property hk _ _ _ _).bind fun _ hs => yields_pure hs

theorem yields_model (hk : effects.KeepsTypes) (d : Declaration) :
    (model effects d).Yields Model.Valid := by
  unfold model
  split
  · refine yields_pure fun p hp => ?_
    obtain ⟨c, -, rfl⟩ := List.mem_map.mp hp
    exact nofun
  · exact yields_interfaceModel hk d
  · exact (yields_each fun _ _ => yields_property hk _ _ _ _).bind fun _ hs => yields_pure hs

theorem yields_findings (hk : effects.KeepsTypes) (d : Declaration) :
    (findings h effects d).Yields fun f =>
      (∀ e ∈ f.endpoints, e.Valid) ∧ ∀ m ∈ f.models, m.Valid := by
  unfold findings
  split
  · exact (yields_model hk d).bind fun _ hm =>
      yields_pure ⟨nofun, List.forall_mem_singleton.mpr hm⟩
  · exact yields_endpoints.bind fun _ hes => yields_pure ⟨hes, nofun⟩
  · exact (yields_trivial _).bind fun _ _ => yields_pure ⟨nofun, nofun⟩

theorem yields_allFindings (hk : effects.KeepsTypes) :
    ∀ ds : List Declaration, (allFindings h effects ds).Yields fun f =>
      (∀ e ∈ f.endpoints, e.Valid) ∧ ∀ m ∈ f.models, m.Valid := by
  intro ds
  induction ds with
  | nil => exact yields_pure ⟨nofun, nofun⟩
  | cons d rest ih =>
      refine (yields_findings hk d).bind fun f hf => ih.bind fun g hg => yields_pure ?_
      exact ⟨List.forall_mem_append.mpr ⟨hf.1, hg.1⟩, List.forall_mem_append.mpr ⟨hf.2, hg.2⟩⟩

end Survey

theorem Edge.valid_attach {e : Endpoint} (he : e.Valid)
    (groups : OrderedMap String (List Dependency)) : (attach groups e).Valid := by
  unfold attach
  split
  · exact ⟨he.parameters, he.requestBody, he.response⟩
  · exact he

namespace Survey

/-- A catalog that is returned has valid records, whatever it is a catalog of. -/
theorem yields_catalog {effects : EffectTable} (hk : effects.KeepsTypes) (h : Heuristics)
    (ds : List Declaration) : (catalog h effects ds).Yields Catalog.Valid := by
  refine (yields_allFindings hk ds).bind fun found hfound =>
    (yields_each fun d _ => yields_interfaceModel hk d).bind fun mined hmined =>
      (yields_trivial _).bind fun _ _ => (yields_trivial _).bind fun _ _ => yields_pure ?_
  rw [Catalog.foldl_addComponent]
  refine ⟨fun e he => ?_, List.forall_mem_append.mpr ⟨hfound.2, hmined⟩⟩
  obtain ⟨e', he', rfl⟩ := List.mem_map.mp he
  exact Edge.valid_attach (hfound.1 e' he') _

/-- Everything that is made of a list of declarations. -/
structure Outputs where
  catalog : Catalog
  document : OpenApi.Document
  endpointTable : String
  modelTable : String
  endpointMap : String

/-- Survey declarations with the usual effects of annotations, and write the document and the
reports. -/
def outputs (h : Heuristics) (style : DocumentStyle) (ds : List Declaration) : Survey Outputs := do
  let c ← catalog h .standard ds
  let (document, replaced) := OpenApi.document style c
  noteAll replaced
  return {
    catalog := c
    document := document
    endpointTable := Report.endpointTable c.endpoints
    modelTable := Report.modelTable c.models
    endpointMap := Report.endpointMap c.endpoints }

/--
**Extraction survives every malformed attribute.**  Declarations whose types are well formed
have a catalog, a document and reports, whatever their annotations, texts and modifiers hold
and whatever the naming rules are.  All records of the catalog are valid, and the search for
the identifier of a box in the map ends each time: no two of them are equal.
-/
theorem outputs_complete (h : Heuristics) (style : DocumentStyle) {ds : List Declaration}
    (wt : ∀ d ∈ ds, d.WellTyped) :
    ∃ o notices, outputs h style ds = .ok (o, notices) ∧ o.catalog.Valid ∧
      (Report.mapIds o.catalog.endpoints).Nodup := by
  have hc : catalog h .standard ds = _ := catalog_ok wt
  refine ⟨_, _, bind_ok hc (bind_ok rfl rfl), ?_, Report.mapIds_nodup _⟩
  exact yields_catalog EffectTable.keepsTypes_standard h ds _ _ hc

/-- A controller and a model whose attributes cannot be read: empty arrays, literals without
an end, numerals that are none, a verb that does not exist. -/
def unreadable : List Declaration :=
  let mark (name : String) (attributes : List (String × String)) : Mark :=
    ⟨name, .ofList attributes⟩
  [{ Declaration.bare "" "" .plainClass with
      marks := [mark "Controller" [], mark "RequestMapping" [("value", "\x7b\x7d")],
        mark "Tag" [("name", "\x7b , \"\" ")]]
      methods := [
        ⟨"", .simple "?", [⟨"", .arrayOf (.simple "?"), [mark "RequestParam" [("required", "\""), ("name", "\\")]]⟩],
          [mark "RequestMapping" [("method", "\x7b,\x7d")], mark "RequestMapping" []], .none, []⟩,
        ⟨"is", .simple "void", [], [mark "RequestMapping" [("method", ".TRACE")]], .none, []⟩] },
    { Declaration.bare "" "model" .plainClass with
      marks := [mark "Deprecated" [("since", "\x7b\x7d")], mark "Table" [("name", "")]]
      fields := [
        ⟨"", .mk "List" [.wildcard] false, [mark "Size" [("min", "1_"), ("max", "0x10")], mark "Size" [],
          mark "Min" [("value", "ten")], mark "Schema" [("required", "maybe")]], .none, []⟩] }]

theorem outputs_complete_unreadable :
    (∀ d ∈ unreadable, d.WellTyped) ∧
      ∃ o notices, outputs .standard .standard unreadable = .ok (o, notices) ∧
        o.catalog.Valid ∧ (Report.mapIds o.catalog.endpoints).Nodup := by
  have hwt : ∀ d ∈ unreadable, d.WellTyped := by decide
  exact ⟨hwt, outputs_complete .standard .standard hwt⟩

end Survey

end ServiceAtlas
