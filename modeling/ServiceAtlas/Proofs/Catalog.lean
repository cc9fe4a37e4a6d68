/-
The catalog of well typed declarations, said without surveys.

A declaration is read on its own: what it yields does not depend on the declarations around
it.  So the endpoints of a catalog are those of each controller in turn, its models are
those of each model declaration followed by those of the mined interfaces, and its
components are the targets of all injections, each where it was first seen.  `catalog_ok`
says so, and it also says that the catalog exists, which nothing about annotations, names
or rules can prevent.
-/
import Mathlib.Data.List.Basic
import Mathlib.Data.List.Induction
import ServiceAtlas.Survey.Catalog
import ServiceAtlas.Proofs.OrderedMap
import ServiceAtlas.Proofs.Survey

namespace ServiceAtlas

namespace Survey

variable {h : Heuristics} {effects : EffectTable} {d : Declaration} {m : Method}

/-! ### What a method of a controller yields -/

theorem silent_requestParameter {p : Parameter} (a : Mark) (place : Place) (required : Bool)
    (ht : p.type.isWellFormed = true) : (requestParameter m p a place required).Silent :=
  (silent_typeRef ht).bind fun _ => silent_pure _

theorem silent_requestParameter? {p : Parameter} (ht : p.type.isWellFormed = true) :
    (requestParameter? h m p).Silent := by
  unfold requestParameter?
  split
  · exact (silent_requestParameter _ _ _ ht).map some
  · split
    · exact (silent_requestParameter _ _ _ ht).map some
    · exact silent_pure none

theorem silent_requestParameters (wt : ∀ t ∈ m.types, t.isWellFormed = true) :
    (requestParameters h m).Silent := by
  refine (each_silent _ _ fun p hp => silent_requestParameter? (wt _ ?_)).bind fun _ => silent_pure _
  exact List.mem_cons_of_mem _ (List.mem_map.mpr ⟨p, hp, rfl⟩)

/-- Request parameters are read from path annotations, which require them, and from query
annotations. -/
theorem yields_requestParameters_of {P : RequestParameter → Prop}
    (hpath : ∀ p a, (requestParameter m p a .path true).Yields P)
    (hquery : ∀ p a required, (requestParameter m p a .query required).Yields P) :
    (requestParameters h m).Yields fun ps => ∀ p ∈ ps, P p := by
  have hparameter (p : Parameter) :
      (requestParameter? h m p).Yields fun found => ∀ q ∈ found, P q := by
    unfold requestParameter?
    split
    · exact Yields.map fun q ns hq _ hmem => Option.mem_some_iff.mp hmem ▸ hpath p _ q ns hq
    · split
      · exact Yields.map fun q ns hq _ hmem => Option.mem_some_iff.mp hmem ▸ hquery p _ _ q ns hq
      · exact yields_pure nofun
  refine (yields_each fun p _ => hparameter p).bind fun found hfound => yields_pure ?_
  intro p hp
  obtain ⟨q, hq, hsome⟩ := List.mem_filterMap.mp hp
  exact hfound q hq p hsome

theorem requestBody_ok (wt : ∀ t ∈ m.types, t.isWellFormed = true) :
    ∃ body, requestBody h m = .ok (body, []) ∧ body.isSome = (bodyParameter? h m).isSome := by
  unfold requestBody
  cases hbody : bodyParameter? h m with
  | none => exact ⟨none, rfl, rfl⟩
  | some p =>
      have hp : p ∈ m.parameters := List.mem_of_find?_eq_some hbody
      obtain ⟨r, hr⟩ := silent_typeRef
        (wt p.type (List.mem_cons_of_mem _ (List.mem_map.mpr ⟨p, hp, rfl⟩)))
      exact ⟨some r, map_ok hr, rfl⟩

/-- What an endpoint has from its controller, its method and its mapping. -/
structure ReadFrom (h : Heuristics) (d : Declaration) (m : Method) (mapping : Mark)
    (verb : Verb) (e : Endpoint) : Prop where
  path : e.path = Path.join (controllerPath h d) mapping.mappingPath
  verb : e.verb = verb
  tags : e.tags = controllerTags h d
  parameters : e.parameters = (requestParameters h m).result
  requestBody : e.requestBody.isSome = (bodyParameter? h m).isSome
  controllerName : e.controllerName = d.name
  controllerScope : e.controllerScope = d.scope
  dependencies : e.dependencies = []
  deprecated : e.deprecated = Mark.any m.marks [h.deprecationMark]

/-- The endpoint names its controller as the declaration names itself. -/
theorem ReadFrom.controller {mapping : Mark} {verb : Verb} {e : Endpoint}
    (hr : ReadFrom h d m mapping verb e) : e.controller = d.qualifiedName := by
  rw [Endpoint.controller, hr.controllerName, hr.controllerScope, Declaration.qualifiedName]

theorem endpoint_ok (wt : ∀ t ∈ m.types, t.isWellFormed = true) (mapping : Mark) (verb : Verb) :
    ∃ e, endpoint h d m mapping verb = .ok (e, []) ∧ ReadFrom h d m mapping verb e := by
  obtain ⟨parameters, hparameters⟩ := silent_requestParameters (h := h) wt
  obtain ⟨response, hresponse⟩ := silent_typeRef (wt m.returnType (by simp [Method.types]))
  have hresult : (requestParameters h m).result = parameters := by rw [hparameters]; rfl
  obtain ⟨body, hbody, htakes⟩ := requestBody_ok (h := h) wt
  refine ⟨_, bind_ok hparameters (bind_ok hbody (bind_ok hresponse rfl)), ?_⟩
  exact ⟨rfl, rfl, rfl, hresult.symm, htakes, rfl, rfl, rfl, rfl⟩

/-- The three things that can become of a method: it is no endpoint, its verb is refused
with a notice, or it is an endpoint. -/
theorem endpoint?_cases (wt : ∀ t ∈ m.types, t.isWellFormed = true) :
    (Mark.find? m.marks h.mappingMarks = none ∧ endpoint? h d m = .ok (none, [])) ∨
    (∃ mapping, Mark.find? m.marks h.mappingMarks = some mapping ∧ mapping.verb? h = none ∧
      endpoint? h d m
        = .ok (none, [.unsupportedVerb d.qualifiedName m.name (mapping.get? "method")])) ∨
    (∃ mapping verb e, Mark.find? m.marks h.mappingMarks = some mapping ∧
      mapping.verb? h = some verb ∧ endpoint? h d m = .ok (some e, []) ∧
      ReadFrom h d m mapping verb e) := by
  cases hfind : Mark.find? m.marks h.mappingMarks with
  | none =>
      refine Or.inl ⟨rfl, ?_⟩
      simp only [endpoint?, hfind]
      rfl
  | some mapping =>
      cases hverb : mapping.verb? h with
      | none =>
          refine Or.inr (Or.inl ⟨mapping, rfl, hverb, ?_⟩)
          simp only [endpoint?, hfind, hverb]
          rfl
      | some verb =>
          obtain ⟨e, he, hr⟩ := endpoint_ok (h := h) (d := d) wt mapping verb
          refine Or.inr (Or.inr ⟨mapping, verb, e, rfl, hverb, ?_, hr⟩)
          simp only [endpoint?, hfind, hverb]
          exact map_ok he

theorem endpoint?_succeeds (wt : ∀ t ∈ m.types, t.isWellFormed = true) :
    (endpoint? h d m).Succeeds := by
  rcases endpoint?_cases (h := h) (d := d) wt with ⟨-, he⟩ | ⟨_, -, -, he⟩ | ⟨_, _, _, -, -, he, -⟩
  all_goals exact ⟨_, _, he⟩

/-! ### What a controller yields -/

/-- A controller yields the endpoints of its methods in order, and reports how many. -/
theorem endpoints_ok (wt : d.WellTyped) :
    endpoints h d = .ok (d.methods.filterMap fun m => (endpoint? h d m).result,
      (d.methods.flatMap fun m => (endpoint? h d m).notices)
        ++ [.controllerRead d.qualifiedName
              (d.methods.filterMap fun m => (endpoint? h d m).result).length]) := by
  have heach := each_ok (endpoint? h d) d.methods fun m hm => endpoint?_succeeds (wt.method hm)
  refine (bind_ok heach (bind_ok rfl rfl)).trans ?_
  simp only [List.filterMap_map, Function.comp_def, id, List.append_nil]
  rfl

theorem endpoints_succeeds (wt : d.WellTyped) : (endpoints h d).Succeeds :=
  ⟨_, _, endpoints_ok wt⟩

theorem endpoints_result (wt : d.WellTyped) :
    (endpoints h d).result = d.methods.filterMap fun m => (endpoint? h d m).result := by
  rw [endpoints_ok wt]
  rfl

theorem readFrom_of_mem_endpoints (wt : d.WellTyped) {e : Endpoint}
    (he : e ∈ (endpoints h d).result) :
    ∃ m ∈ d.methods, ∃ mapping verb, ReadFrom h d m mapping verb e := by
  rw [endpoints_result wt] at he
  obtain ⟨m, hm, hres⟩ := List.mem_filterMap.mp he
  refine ⟨m, hm, ?_⟩
  rcases endpoint?_cases (h := h) (d := d) (wt.method hm) with
    ⟨-, heq⟩ | ⟨_, -, -, heq⟩ | ⟨mapping, verb, e', -, -, heq, hr⟩
  all_goals rw [heq] at hres
  · cases hres
  · cases hres
  · cases hres
    exact ⟨mapping, verb, hr⟩

/-! ### What a model declaration yields -/

theorem property_succeeds {type : WrittenType} (ht : type.isWellFormed = true) (name : String)
    (marks : List Mark) (documentation : Documentation) :
    (property effects name type marks documentation).Succeeds :=
  (silent_typeRef ht).succeeds.bind fun _ => ⟨_, _, bind_ok rfl rfl⟩

theorem classModel_succeeds (wt : d.WellTyped) : (classModel effects d).Succeeds := by
  have hfields := each_succeeds (fieldProperty effects)
    (d.fields.filter fun f => !(f.isStatic || f.isFinal)) fun f hf =>
      property_succeeds (wt.field (List.mem_of_mem_filter hf)) _ _ _
  exact hfields.bind fun _ => (silent_pure _).succeeds

theorem mem_of_mem_accessors :
    ∀ {ms : List Method} {seen : List String} {a : String × Method},
      a ∈ accessors seen ms → a.2 ∈ ms := by
  intro ms
  induction ms with
  | nil => intro seen a ha; cases ha
  | cons m rest ih =>
      intro seen a ha
      rw [accessors] at ha
      split at ha
      · exact List.mem_cons_of_mem _ (ih ha)
      · split at ha
        · exact List.mem_cons_of_mem _ (ih ha)
        · rcases List.mem_cons.mp ha with rfl | hrest
          · exact List.mem_cons_self
          · exact List.mem_cons_of_mem _ (ih hrest)

theorem interfaceModel_succeeds (wt : d.WellTyped) : (interfaceModel effects d).Succeeds := by
  have haccessors := each_succeeds (accessorProperty effects) (accessors [] d.methods)
    fun a ha => property_succeeds
      (wt.method (mem_of_mem_accessors ha) _ (by simp [Method.types])) _ _ _
  exact haccessors.bind fun _ => (silent_pure _).succeeds

theorem model_succeeds (wt : d.WellTyped) : (model effects d).Succeeds := by
  unfold model
  split
  · exact (silent_pure _).succeeds
  · exact interfaceModel_succeeds wt
  · exact classModel_succeeds wt

/-! ### What a list of declarations yields -/

/-- The declarations of a role, in order. -/
def ofRole (h : Heuristics) (role : Role) (ds : List Declaration) : List Declaration :=
  ds.filter fun d => d.role h = role

/-- The interfaces that are read after all other models: those that have no role of their
own and whose accessors describe data. -/
def mined (h : Heuristics) (ds : List Declaration) : List Declaration :=
  ds.filter fun d => d.role h = .skip && d.isModelInterface h

/-- The models of a list of declarations, mined interfaces last. -/
def modelsOf (h : Heuristics) (effects : EffectTable) (ds : List Declaration) : List Model :=
  (ofRole h .model ds).map (fun d => (model effects d).result)
    ++ (mined h ds).map fun d => (interfaceModel effects d).result

/-- The endpoints of a list of declarations, controller by controller, before the injected
collaborators are attached. -/
def endpointsOf (h : Heuristics) (ds : List Declaration) : List Endpoint :=
  (ofRole h .controller ds).flatMap fun d => (endpoints h d).result

theorem ofRole_append (role : Role) (ds ds' : List Declaration) :
    ofRole h role (ds ++ ds') = ofRole h role ds ++ ofRole h role ds' :=
  List.filter_append ds ds'

theorem endpointsOf_append (ds ds' : List Declaration) :
    endpointsOf h (ds ++ ds') = endpointsOf h ds ++ endpointsOf h ds' := by
  rw [endpointsOf, ofRole_append, List.flatMap_append, endpointsOf, endpointsOf]

theorem findings_of_model (effects : EffectTable) (wt : d.WellTyped) (hrole : d.role h = .model) :
    findings h effects d
      = .ok (⟨[(model effects d).result], [], []⟩, (model effects d).notices) := by
  unfold findings
  rw [hrole]
  refine (bind_ok (model_succeeds wt).eq_ok rfl).trans ?_
  rw [List.append_nil]
  rfl

theorem findings_of_controller (effects : EffectTable) (wt : d.WellTyped) (hrole : d.role h = .controller) :
    findings h effects d
      = .ok (⟨[], (endpoints h d).result, []⟩, (endpoints h d).notices) := by
  unfold findings
  rw [hrole]
  refine (bind_ok (endpoints_succeeds wt).eq_ok rfl).trans ?_
  rw [List.append_nil]
  rfl

theorem findings_of_skip (effects : EffectTable) (hrole : d.role h = .skip) :
    findings h effects d
      = .ok (⟨[], [], if d.isModelInterface h then [d] else []⟩, [.skipped d.qualifiedName]) := by
  unfold findings
  rw [hrole]
  rfl

/-- What a list of declarations yields, before the mined interfaces are read. -/
def findingsOf (h : Heuristics) (effects : EffectTable) (ds : List Declaration) : Findings where
  models := (ofRole h .model ds).map fun d => (model effects d).result
  endpoints := endpointsOf h ds
  interfaces := mined h ds

theorem findingsOf_append (ds ds' : List Declaration) :
    findingsOf h effects (ds ++ ds')
      = (findingsOf h effects ds).append (findingsOf h effects ds') := by
  simp only [findingsOf, Findings.append, ofRole_append, endpointsOf_append, List.map_append, mined,
    List.filter_append]

/-- A declaration yields what the list of it alone does: its role decides to which of the
three lists it adds. -/
theorem findings_ok (h : Heuristics) (effects : EffectTable) (wt : d.WellTyped) :
    findings h effects d
      = .ok (findingsOf h effects [d], (findings h effects d).notices) := by
  cases hrole : d.role h with
  | model =>
      have hfound : findingsOf h effects [d] = ⟨[(model effects d).result], [], []⟩ := by
        simp [findingsOf, ofRole, endpointsOf, mined, hrole]
      rw [findings_of_model effects wt hrole, hfound]
      rfl
  | controller =>
      have hfound : findingsOf h effects [d] = ⟨[], (endpoints h d).result, []⟩ := by
        simp [findingsOf, ofRole, endpointsOf, mined, hrole]
      rw [findings_of_controller effects wt hrole, hfound]
      rfl
  | skip =>
      have hfound : findingsOf h effects [d]
          = ⟨[], [], if d.isModelInterface h then [d] else []⟩ := by
        simp [findingsOf, ofRole, endpointsOf, mined, hrole, List.filter_cons]
      rw [findings_of_skip effects hrole, hfound]
      rfl

theorem allFindings_ok (h : Heuristics) (effects : EffectTable) :
    ∀ {ds : List Declaration}, (∀ d ∈ ds, d.WellTyped) →
      allFindings h effects ds
        = .ok (findingsOf h effects ds, ds.flatMap fun d => (findings h effects d).notices) := by
  intro ds
  induction ds with
  | nil => intro _; rfl
  | cons d rest ih =>
      intro wt
      have hfirst := findings_ok h effects (wt d (by simp))
      have hrest := ih fun d' hd' => wt d' (by simp [hd'])
      rw [allFindings]
      refine (bind_ok hfirst (bind_ok hrest rfl)).trans ?_
      rw [← findingsOf_append, List.append_nil]
      rfl

end Survey

/-! ### Components -/

namespace Catalog

theorem components_addComponent (c : Catalog) (name : String) :
    (c.addComponent name).components
      = if name ∈ c.components then c.components else c.components ++ [name] := by
  unfold addComponent
  by_cases hmem : name ∈ c.components <;> simp [hmem]

theorem nodup_eraseDups (names : List String) : names.eraseDups.Nodup := by
  induction names using List.reverseRecOn with
  | nil => exact List.nodup_nil
  | append_singleton before name ih =>
      rw [OrderedMap.eraseDups_concat]
      split
      · exact ih
      · rename_i hnew
        rw [← List.concat_eq_append, List.nodup_concat, List.mem_eraseDups]
        exact ⟨hnew, ih⟩

theorem addComponent_records (c : Catalog) (name : String) :
    (c.addComponent name).endpoints = c.endpoints ∧ (c.addComponent name).models = c.models := by
  unfold addComponent
  split <;> exact ⟨rfl, rfl⟩

theorem foldl_addComponent_records :
    ∀ (names : List String) (c : Catalog),
      (names.foldl addComponent c).endpoints = c.endpoints ∧
        (names.foldl addComponent c).models = c.models := by
  intro names
  induction names with
  | nil => intro c; exact ⟨rfl, rfl⟩
  | cons name rest ih =>
      intro c
      obtain ⟨hendpoints, hmodels⟩ := ih (c.addComponent name)
      obtain ⟨hendpoint, hmodel⟩ := c.addComponent_records name
      exact ⟨hendpoints.trans hendpoint, hmodels.trans hmodel⟩

/-- Components are added where they are first seen, and nothing else changes. -/
theorem foldl_addComponent (names : List String) (es : List Endpoint) (ms : List Model) :
    names.foldl addComponent ⟨es, ms, []⟩ = ⟨es, ms, names.eraseDups⟩ := by
  obtain ⟨hendpoints, hmodels⟩ := foldl_addComponent_records names ⟨es, ms, []⟩
  have hcomponents := OrderedMap.foldl_firstSeen components_addComponent names ⟨es, ms, []⟩ [] rfl
  rw [List.nil_append, List.map_id'] at hcomponents
  cases hc : names.foldl addComponent ⟨es, ms, []⟩ with
  | mk es' ms' cs' =>
      rw [hc] at hendpoints hmodels hcomponents
      cases hendpoints
      cases hmodels
      cases hcomponents
      rfl

end Catalog

namespace Survey

variable {h : Heuristics} {effects : EffectTable}

/-- The catalog of a list of declarations, said outright. -/
def catalogOf (h : Heuristics) (effects : EffectTable) (ds : List Declaration) : Catalog where
  endpoints := Edge.attachAll (Edge.all h ds) (endpointsOf h ds)
  models := modelsOf h effects ds
  components := (Edge.injectedTargets (Edge.all h ds)).eraseDups

/-- What is reported on the way to the catalog. -/
def catalogNotices (h : Heuristics) (effects : EffectTable) (ds : List Declaration) :
    List Notice :=
  (ds.flatMap fun d => (findings h effects d).notices)
    ++ ((mined h ds).flatMap fun d => (interfaceModel effects d).notices)
    ++ duplicateNotices [] (modelsOf h effects ds)
    ++ [.surveyed (endpointsOf h ds).length (modelsOf h effects ds).length ds.length]

/-- **Well typed declarations have a catalog**, and this is it. -/
theorem catalog_ok {ds : List Declaration} (wt : ∀ d ∈ ds, d.WellTyped) :
    catalog h effects ds = .ok (catalogOf h effects ds, catalogNotices h effects ds) := by
  have hfound := allFindings_ok h effects wt
  have hmined := each_ok (interfaceModel effects) (mined h ds) fun d hd =>
    interfaceModel_succeeds (wt d (List.mem_of_mem_filter hd))
  refine (bind_ok hfound (bind_ok hmined (bind_ok rfl (bind_ok rfl rfl)))).trans ?_
  rw [Catalog.foldl_addComponent]
  simp only [catalogOf, catalogNotices, modelsOf, List.append_assoc, List.append_nil]
  rfl

end Survey

end ServiceAtlas
