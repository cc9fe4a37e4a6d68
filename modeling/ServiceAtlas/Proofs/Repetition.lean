/-
Declarations that are read twice make the document that they make once.

A source that is named twice doubles all of its declarations.  The models then come as class
models, the class models again, mined interfaces and the mined interfaces again, and not as
the list of all models twice; the endpoints come with twice the dependencies.  None of this
shows: a document says nothing about dependencies, and its maps keep the first place and the
last value of each key, which is the same when the writes of each group are repeated right
behind it.

The paths are a map of maps.  `keys_paths` says in which order the paths come and
`item_addAll` which verbs each of them gets, so a question about the nested map becomes one
about a flat map for each path.
-/
import ServiceAtlas.Proofs.Reordering

namespace ServiceAtlas

namespace OpenApi

variable (style : DocumentStyle)

namespace Paths

/-! ### The verbs under each path -/

/-- The operations that endpoints write under a path, in order. -/
def operationsAt (key : String) (es : List Endpoint) : List (Verb × Operation) :=
  (es.filter fun e => pathKey e = key).map fun e => (e.verb, .ofEndpoint style e)

theorem item_addAll (key : String) :
    ∀ (es : List Endpoint) (paths : Paths),
      (addAll style paths es).1.item key
        = (operationsAt style key es).foldl (fun m p => m.insert p.1 p.2) (paths.item key) := by
  intro es
  induction es with
  | nil => intro paths; rfl
  | cons e rest ih =>
      intro paths
      have hrest := ih (paths.add style e)
      rw [item_add] at hrest
      by_cases hkey : pathKey e = key
      · rw [if_pos hkey.symm] at hrest
        simpa [operationsAt, addAll, hkey] using hrest
      · rw [if_neg fun hc => hkey hc.symm] at hrest
        simpa [operationsAt, addAll, hkey] using hrest

/-- Paths are equal when they come in one order and have the same operations under each. -/
theorem ext_item {p q : Paths} (hkeys : p.keys = q.keys) (hitem : ∀ key, p.item key = q.item key) :
    p = q := by
  refine OrderedMap.ext_get? hkeys fun key => ?_
  have hmem : key ∈ p.keys ↔ key ∈ q.keys := by rw [hkeys]
  rw [OrderedMap.mem_keys_iff, OrderedMap.mem_keys_iff] at hmem
  have heq := hitem key
  unfold item at heq
  cases hp : p.get? key with
  | none =>
      cases hq : q.get? key with
      | none => rfl
      | some b => simp [hp, hq] at hmem
  | some a =>
      cases hq : q.get? key with
      | none => simp [hp, hq] at hmem
      | some b => simpa [hp, hq] using heq

end Paths

/-- Endpoints that write the same operations in the same order under each path have the same
paths. -/
theorem paths_congr {es es' : List Endpoint}
    (hkeys : (es.map pathKey).eraseDups = (es'.map pathKey).eraseDups)
    (hitem : ∀ key, OrderedMap.ofList (Paths.operationsAt style key es)
      = .ofList (Paths.operationsAt style key es')) :
    (paths style es).1 = (paths style es').1 := by
  refine Paths.ext_item ?_ fun key => ?_
  · rw [keys_paths, keys_paths, hkeys]
  · exact (Paths.item_addAll style key es ∅).trans
      ((hitem key).trans (Paths.item_addAll style key es' ∅).symm)

/-- What is attached to endpoints does not show in their paths. -/
theorem paths_attachAll (edges : List Edge) (es : List Endpoint) :
    (paths style (Edge.attachAll edges es)).1 = (paths style es).1 := by
  have hattach (e : Endpoint) : pathKey (Edge.attach (Edge.dependencies edges) e) = pathKey e ∧
      (Edge.attach (Edge.dependencies edges) e).verb = e.verb ∧
      Operation.ofEndpoint style (Edge.attach (Edge.dependencies edges) e)
        = .ofEndpoint style e := by
    unfold Edge.attach
    split <;> exact ⟨rfl, rfl, rfl⟩
  refine paths_congr style ?_ fun key => ?_
  · rw [Edge.attachAll, List.map_map]
    simp only [Function.comp_def, hattach]
  · rw [Paths.operationsAt, Edge.attachAll, List.filter_map, List.map_map]
    simp only [Function.comp_def, hattach]
    rfl

theorem paths_doubled (es : List Endpoint) : (paths style (es ++ es)).1 = (paths style es).1 := by
  refine paths_congr style ?_ fun key => ?_
  · have hkeys := OrderedMap.eraseDups_doubled (es.map pathKey) []
    simpa using hkeys
  · have hwrites := OrderedMap.ofList_doubled (Paths.operationsAt style key es) []
    simpa [Paths.operationsAt] using hwrites

theorem modelSchemas_doubled (ms ns : List Model) :
    modelSchemas (ms ++ ms ++ (ns ++ ns)) = modelSchemas (ms ++ ns) := by
  simp only [modelSchemas, List.map_append]
  exact OrderedMap.ofList_doubled _ _

end OpenApi

namespace Survey

/-- The models of declarations and of the same again: class models are repeated among
themselves, and so are mined interfaces. -/
theorem modelsOf_doubled (h : Heuristics) (effects : EffectTable) (ds : List Declaration) :
    ∃ ms ns, modelsOf h effects ds = ms ++ ns ∧
      modelsOf h effects (ds ++ ds) = ms ++ ms ++ (ns ++ ns) := by
  refine ⟨_, _, rfl, ?_⟩
  rw [modelsOf, ofRole_append, mined, List.filter_append, List.map_append, List.map_append]
  rfl

/--
**Passing the same sources twice does not change the document.**  The document of a list of
declarations and of the same list again is the document of the list: with the same paths and
the same verbs under each, the same schemas and the same properties in each, all of them in
the same order, whichever records of the list meet under one key.
-/
theorem document_doubled (h : Heuristics) (effects : EffectTable) (style : DocumentStyle)
    {ds : List Declaration} (wt : ∀ d ∈ ds, d.WellTyped) :
    ∃ c notices c' notices',
      catalog h effects ds = .ok (c, notices) ∧
      catalog h effects (ds ++ ds) = .ok (c', notices') ∧
      (OpenApi.document style c').1 = (OpenApi.document style c).1 := by
  have wt' : ∀ d ∈ ds ++ ds, d.WellTyped := fun d hd => wt d (by simpa using hd)
  refine ⟨_, _, _, _, catalog_ok wt, catalog_ok wt', ?_⟩
  have hpaths : (OpenApi.paths style (catalogOf h effects (ds ++ ds)).endpoints).1
      = (OpenApi.paths style (catalogOf h effects ds).endpoints).1 := by
    show (OpenApi.paths style (Edge.attachAll _ _)).1 = (OpenApi.paths style (Edge.attachAll _ _)).1
    rw [OpenApi.paths_attachAll, OpenApi.paths_attachAll, endpointsOf_append,
      OpenApi.paths_doubled]
  have hschemas : OpenApi.modelSchemas (catalogOf h effects (ds ++ ds)).models
      = OpenApi.modelSchemas (catalogOf h effects ds).models := by
    obtain ⟨ms, ns, honce, htwice⟩ := modelsOf_doubled h effects ds
    show OpenApi.modelSchemas (modelsOf _ _ _) = OpenApi.modelSchemas (modelsOf _ _ _)
    rw [honce, htwice, OpenApi.modelSchemas_doubled]
  simp only [OpenApi.document]
  rw [hpaths, hschemas]

/-- An interface and a class of one name with different properties, a further class, and two
methods of a controller that meet on one path. -/
def overlapping : List Declaration :=
  let field (name type : String) : Field := ⟨name, .simple type, [], .none, []⟩
  let method (name type : String) (marks : List Mark) : Method :=
    ⟨name, .simple type, [], marks, .none, []⟩
  let read (path : String) : Mark := ⟨"GetMapping", .ofList [("value", path)]⟩
  [{ Declaration.bare "User" "shop.model.view" .interface with
      methods := [method "getKey" "long" []] },
    { Declaration.bare "Home" "shop.web" .plainClass with
      marks := [.plain "RestController"]
      methods := [method "all" "Role" [read "\"\""], method "one" "User" [read "\"/\""]] },
    { Declaration.bare "User" "shop.model" .plainClass with fields := [field "name" "String"] },
    { Declaration.bare "Role" "shop.model" .plainClass with fields := [field "rank" "int"] }]

theorem document_doubled_overlapping :
    (∀ d ∈ overlapping, d.WellTyped) ∧
      ∃ c notices c' notices',
        catalog .standard .standard overlapping = .ok (c, notices) ∧
        catalog .standard .standard (overlapping ++ overlapping) = .ok (c', notices') ∧
        c.models.map (·.name) = ["User", "Role", "User"] ∧
        c'.models.map (·.name) = ["User", "Role", "User", "Role", "User", "User"] ∧
        (OpenApi.document .standard c').1 = (OpenApi.document .standard c).1 := by
  have hwt : ∀ d ∈ overlapping, d.WellTyped := by decide
  have hwt' : ∀ d ∈ overlapping ++ overlapping, d.WellTyped := by decide
  obtain ⟨c, notices, c', notices', hc, hc', hdocument⟩ :=
    document_doubled .standard .standard .standard hwt
  refine ⟨hwt, c, notices, c', notices', hc, hc', ?_, ?_, hdocument⟩
  · rw [catalog_ok hwt] at hc
    cases hc
    decide
  · rw [catalog_ok hwt'] at hc'
    cases hc'
    decide

end Survey

end ServiceAtlas
