/-
Every operation of a document is that of one method, and follows the rules of mappings.

Several methods can ask for one verb on one path, and the document then shows the operation
of the last of them.  `lastFor` says which method that is without speaking of endpoints or
maps: it goes through the methods of all controllers from behind.  `operation?_endpointsOf`
says that the document looks operations up in the same way, so whatever is known of one
endpoint and its method is known of the operation that is left when all endpoints have been
taken in.

The rules themselves are facts about single endpoints: about the parameters that a method
stands for, about the tags of its controller, and about what is read off its annotations.
Nothing is assumed of the naming rules, so one annotation may well mark a path parameter and
the body of the request at once.
-/
import ServiceAtlas.Proofs.Repetition

namespace ServiceAtlas

/-! ### Members of written values -/

namespace Json

theorem member?_append (name : String) (ns : List (String × Json)) :
    ∀ ms : List (String × Json),
      member? name (ms ++ ns) = (member? name ms).or (member? name ns) := by
  intro ms
  induction ms with
  | nil => rfl
  | cons m rest ih =>
      obtain ⟨n, v⟩ := m
      by_cases hname : n = name <;> simp [member?, hname, ih]

end Json

namespace OpenApi

theorem member?_textMember {name other : String} (text : String) (hne : other ≠ name) :
    Json.member? name (textMember other text) = none := by
  unfold textMember
  split
  · rfl
  · simp [Json.member?, hne]

/-- What is written of an operation under the names that the rules speak of. -/
theorem Operation.get?_toJson (o : Operation) :
    o.toJson.get? "tags" = (if o.tags = [] then none else some (.strings o.tags)) ∧
      o.toJson.get? "parameters" = some (.arr (o.parameters.map parameterJson)) ∧
      o.toJson.get? "requestBody" = (if o.takesBody then some requestBodyJson else none) ∧
      o.toJson.get? "deprecated" = (if o.deprecated then some (.bool true) else none) := by
  have htags (name : String) (hne : name ≠ "tags") :
      Json.member? name (if o.tags.isEmpty then [] else [("tags", .strings o.tags)]) = none := by
    split <;> simp [Json.member?, hne.symm]
  have hbody (name : String) (hne : name ≠ "requestBody") :
      Json.member? name (if o.takesBody then [("requestBody", requestBodyJson)] else [])
        = none := by
    split <;> simp [Json.member?, hne.symm]
  simp only [toJson, Json.get?, Json.member?_append]
  refine ⟨?_, ?_, ?_, ?_⟩
  · rw [member?_textMember o.summary (by decide), member?_textMember o.description (by decide),
      hbody _ (by decide)]
    by_cases hnone : o.tags = [] <;> cases o.deprecated <;> simp [hnone, Json.member?]
  · rw [htags _ (by decide), member?_textMember o.summary (by decide),
      member?_textMember o.description (by decide)]
    simp [Json.member?]
  · rw [htags _ (by decide), member?_textMember o.summary (by decide),
      member?_textMember o.description (by decide)]
    cases o.takesBody <;> cases o.deprecated <;> simp [Json.member?]
  · rw [htags _ (by decide), member?_textMember o.summary (by decide),
      member?_textMember o.description (by decide), hbody _ (by decide)]
    cases o.deprecated <;> simp [Json.member?]

/-- The operation under a path and a verb is the one that is written there. -/
theorem Paths.operation?_eq_some_iff {paths : Paths} {key : String} {verb : Verb}
    {o : Operation} :
    paths.operation? key verb = some o ↔
      ∃ verbs, (key, verbs) ∈ paths.entries ∧ (verb, o) ∈ verbs.entries := by
  unfold operation? item
  constructor
  · intro hfound
    cases hverbs : paths.get? key with
    | none =>
        rw [hverbs] at hfound
        cases hfound
    | some verbs =>
        rw [hverbs] at hfound
        exact ⟨verbs, OrderedMap.get?_eq_some_iff.mp hverbs, OrderedMap.get?_eq_some_iff.mp hfound⟩
  · rintro ⟨verbs, hverbs, ho⟩
    rw [OrderedMap.get?_eq_some_iff.mpr hverbs]
    exact OrderedMap.get?_eq_some_iff.mpr ho

end OpenApi

namespace Survey

variable {h : Heuristics} {effects : EffectTable} {ds : List Declaration} {d : Declaration}
  {m : Method}

/-! ### Which method an operation comes from -/

/-- The path and the verb that a method of a controller answers, if it answers any; an empty
path is that of the root. -/
def route? (h : Heuristics) (d : Declaration) (m : Method) : Option (String × Verb) :=
  (Mark.find? m.marks h.mappingMarks).bind fun mapping =>
    (mapping.verb? h).map fun verb =>
      let path := Path.join (controllerPath h d) mapping.mappingPath
      (if path.isEmpty then "/" else path, verb)

/-- The methods of controllers, in the order of the declarations and of their methods. -/
def handlers (h : Heuristics) (ds : List Declaration) : List (Declaration × Method) :=
  (ofRole h .controller ds).flatMap fun d => d.methods.map fun m => (d, m)

/-- The last method that answers a path and a verb, with its controller. -/
def lastFor (h : Heuristics) (ds : List Declaration) (route : String × Verb) :
    Option (Declaration × Method) :=
  (handlers h ds).reverse.find? fun x => route? h x.1 x.2 = some route

theorem wellTyped_of_mem_handlers (wt : ∀ d ∈ ds, d.WellTyped) (hmem : (d, m) ∈ handlers h ds) :
    d ∈ ds ∧ ∀ t ∈ m.types, t.isWellFormed = true := by
  obtain ⟨d', hd', hm⟩ := List.mem_flatMap.mp hmem
  obtain ⟨m', hm', heq⟩ := List.mem_map.mp hm
  cases heq
  have hd : d ∈ ds := List.mem_of_mem_filter hd'
  exact ⟨hd, (wt d hd).method hm'⟩

/-- A method answers what its endpoint has, and answers nothing without an endpoint. -/
theorem route?_eq (wt : ∀ t ∈ m.types, t.isWellFormed = true) :
    route? h d m = (endpoint? h d m).result.map fun e => (OpenApi.pathKey e, e.verb) := by
  unfold route?
  rcases endpoint?_cases (h := h) (d := d) wt with
    ⟨hfind, heq⟩ | ⟨mapping, hfind, hverb, heq⟩ | ⟨mapping, verb, e, hfind, hverb, heq, hread⟩
  · rw [heq, hfind]
    rfl
  · rw [heq, hfind, Option.bind_some, hverb]
    rfl
  · have hkey : OpenApi.pathKey e
        = if e.path.isEmpty then "/" else e.path := rfl
    rw [heq, hfind, Option.bind_some, hverb]
    simp only [Option.map_some, result, hkey, hread.path, hread.verb]

/-- The endpoint of a method is read from it. -/
theorem readFrom_of_result (wt : ∀ t ∈ m.types, t.isWellFormed = true) {e : Endpoint}
    (he : (endpoint? h d m).result = some e) : ∃ mapping verb, ReadFrom h d m mapping verb e := by
  rcases endpoint?_cases (h := h) (d := d) wt with
    ⟨-, heq⟩ | ⟨_, -, -, heq⟩ | ⟨mapping, verb, e', -, -, heq, hread⟩
  all_goals rw [heq] at he
  · cases he
  · cases he
  · cases he
    exact ⟨mapping, verb, hread⟩

theorem endpointsOf_eq_filterMap (wt : ∀ d ∈ ds, d.WellTyped) :
    endpointsOf h ds = (handlers h ds).filterMap fun x => (endpoint? h x.1 x.2).result := by
  rw [endpointsOf, handlers, List.filterMap_flatMap]
  refine List.flatMap_congr fun d hd => ?_
  rw [endpoints_result (wt d (List.mem_of_mem_filter hd)), List.filterMap_map]
  rfl

/-- **The operation under a path and a verb is that of the last method that answers them.** -/
theorem operation?_endpointsOf (style : DocumentStyle) (wt : ∀ d ∈ ds, d.WellTyped)
    (path : String) (verb : Verb) :
    (OpenApi.paths style (endpointsOf h ds)).1.operation? path verb
      = (lastFor h ds (path, verb)).bind fun x =>
          (endpoint? h x.1 x.2).result.map (.ofEndpoint style) := by
  have hsame : ∀ x ∈ (handlers h ds).reverse,
      decide (((endpoint? h x.1 x.2).result.map fun e =>
          ((OpenApi.pathKey e, e.verb), OpenApi.Operation.ofEndpoint style e)).map Prod.fst
            = some (path, verb))
        = decide (route? h x.1 x.2 = some (path, verb)) := by
    intro x hx
    have hwt := (wellTyped_of_mem_handlers wt (List.mem_reverse.mp hx)).2
    rw [route?_eq hwt, Option.map_map]
    rfl
  rw [OpenApi.operation?_paths, OrderedMap.get?_ofList, OpenApi.Paths.written,
    endpointsOf_eq_filterMap wt, List.map_filterMap, ← List.filterMap_reverse,
    OrderedMap.lookup_filterMap, lastFor, ← List.head?_filter, List.filter_congr hsame,
    List.head?_filter]
  simp only [Option.map_map]
  rfl

theorem operation?_catalogOf (style : DocumentStyle) (wt : ∀ d ∈ ds, d.WellTyped)
    (path : String) (verb : Verb) :
    (OpenApi.paths style (catalogOf h effects ds).endpoints).1.operation? path verb
      = (lastFor h ds (path, verb)).bind fun x =>
          (endpoint? h x.1 x.2).result.map (.ofEndpoint style) := by
  show (OpenApi.paths style (Edge.attachAll _ _)).1.operation? path verb = _
  rw [OpenApi.paths_attachAll, operation?_endpointsOf style wt]

/-- The last method that answers a route is a method of a controller, and answers it. -/
theorem mem_of_lastFor {path : String} {verb : Verb}
    (hlast : lastFor h ds (path, verb) = some (d, m)) :
    (d, m) ∈ handlers h ds ∧ route? h d m = some (path, verb) := by
  refine ⟨List.mem_reverse.mp (List.mem_of_find?_eq_some hlast), ?_⟩
  simpa using List.find?_some hlast

/-! ### The rules -/

/-- What the annotations of a method make of its operation under a verb, as it is written. -/
structure Obeys (h : Heuristics) (m : Method) (verb : Verb) (o : Json) : Prop where
  /-- Parameters are taken from the path, and then they are required, or from the query. -/
  parameters : ∃ ps, o.get? "parameters" = some (.arr ps) ∧ ∀ p ∈ ps,
    (p.get? "in" = some (.str "path") ∧ p.get? "required" = some (.bool true)) ∨
      p.get? "in" = some (.str "query")
  tags : ∃ names, o.get? "tags" = some (.strings names) ∧ names ≠ [] ∧ ∀ name ∈ names, name ≠ ""
  requestBody : (o.get? "requestBody").isSome = true ↔
    verb ≠ .get ∧ ∃ p ∈ m.parameters, Mark.any p.marks h.bodyMarks = true
  deprecated : o.get? "deprecated"
    = if Mark.any m.marks [h.deprecationMark] then some (.bool true) else none

theorem yields_required :
    (requestParameters h m).Yields fun ps => ∀ p ∈ ps, p.place = .path → p.required = true :=
  yields_requestParameters_of
    (fun p _ => (yields_trivial (typeRef p.type)).bind fun _ _ => yields_pure fun _ => rfl)
    fun p _ _ => (yields_trivial (typeRef p.type)).bind fun _ _ => yields_pure nofun

/-- A controller with a name has tags, none of them empty: the names of its grouping
annotation that are not, or else its own name or a part of it. -/
theorem controllerTags_named (hname : d.name ≠ "") :
    controllerTags h d ≠ [] ∧ ∀ name ∈ controllerTags h d, name ≠ "" := by
  unfold controllerTags
  extract_lets named short
  split
  · refine ⟨List.cons_ne_nil _ _, fun name hmem => ?_⟩
    rw [List.mem_singleton.mp hmem]
    split
    · exact hname
    · rename_i hshort
      intro hempty
      rw [String.ofList_eq_empty_iff] at hempty
      exact hshort (by simp [hempty])
  · rename_i hsome
    refine ⟨fun hempty => hsome (by simp [hempty]), fun name hmem => ?_⟩
    dsimp only [named] at hmem
    split at hmem
    · cases hmem
    · simpa using (List.mem_filter.mp hmem).2

theorem bodyParameter?_isSome :
    (bodyParameter? h m).isSome = true ↔
      ∃ p ∈ m.parameters, Mark.any p.marks h.bodyMarks = true := by
  rw [bodyParameter?, List.find?_isSome]

theorem obeys_of_readFrom (style : DocumentStyle) (hname : d.name ≠ "")
    (wt : ∀ t ∈ m.types, t.isWellFormed = true) {mapping : Mark} {verb : Verb} {e : Endpoint}
    (hread : ReadFrom h d m mapping verb e) :
    Obeys h m e.verb (OpenApi.Operation.ofEndpoint style e).toJson := by
  obtain ⟨htags, hparameters, hbody, hdeprecated⟩ :=
    (OpenApi.Operation.ofEndpoint style e).get?_toJson
  obtain ⟨hsome, hnames⟩ := controllerTags_named (h := h) hname
  rw [← hread.tags] at hsome hnames
  refine ⟨⟨_, hparameters, ?_⟩, ⟨_, htags.trans (if_neg hsome), hsome, hnames⟩, ?_, ?_⟩
  · obtain ⟨ps, hps⟩ := silent_requestParameters (h := h) wt
    have hresult : e.parameters = ps := by
      rw [hread.parameters, hps]
      rfl
    intro p hp
    obtain ⟨q, hq, rfl⟩ := List.mem_map.mp hp
    have hrequired := yields_required ps [] hps q (hresult ▸ hq)
    cases hplace : q.place with
    | path => exact Or.inl (by
        simp [OpenApi.parameterJson, Json.get?, Json.member?, hplace, hrequired hplace, Place.word])
    | query => exact Or.inr (by
        simp [OpenApi.parameterJson, Json.get?, Json.member?, hplace, Place.word])
  · rw [← bodyParameter?_isSome, ← hread.requestBody, hbody]
    have htakes : (OpenApi.Operation.ofEndpoint style e).takesBody = true
        ↔ e.verb ≠ .get ∧ e.requestBody.isSome = true := by
      simp [OpenApi.Operation.ofEndpoint, and_comm]
    rw [← htakes]
    cases (OpenApi.Operation.ofEndpoint style e).takesBody <;> simp
  · rw [hdeprecated, ← hread.deprecated]
    rfl

/--
**Operations of a document obey the rules of mappings.**  Every operation stands under one of
five verbs, and is that of the last method, in the order of declarations and of their
methods, that answers the path and the verb; its parameters, tags, body and deprecation are
what that method makes of them.  A path and a verb that some method answers have an operation.
-/
theorem document_operations (h : Heuristics) (effects : EffectTable) (style : DocumentStyle)
    {ds : List Declaration} (wt : ∀ d ∈ ds, d.WellTyped) (named : ∀ d ∈ ds, d.name ≠ "") :
    ∃ c notices, catalog h effects ds = .ok (c, notices) ∧
      ∃ paths, (OpenApi.document style c).1.toJson.get? "paths" = some (.obj paths) ∧
        (∀ path item, (path, item) ∈ paths → ∃ operations, item = .obj operations ∧
          ∀ key o, (key, o) ∈ operations →
            key ∈ ["get", "post", "put", "delete", "patch"] ∧
              ∃ verb d m, key = verb.key ∧ lastFor h ds (path, verb) = some (d, m) ∧
                Obeys h m verb o) ∧
        ∀ path verb, (lastFor h ds (path, verb)).isSome = true →
          ∃ operations o, (path, .obj operations) ∈ paths ∧ (verb.key, o) ∈ operations := by
  refine ⟨_, _, catalog_ok wt, _, rfl, fun _ _ hitem => ?_, fun path verb hsome => ?_⟩
  · obtain ⟨⟨path, verbs⟩, hverbs, heq⟩ := List.mem_map.mp hitem
    cases heq
    refine ⟨_, rfl, fun _ _ ho => ?_⟩
    obtain ⟨⟨verb, operation⟩, hoperation, heq⟩ := List.mem_map.mp ho
    cases heq
    have hfound : (OpenApi.paths style (catalogOf h effects ds).endpoints).1.operation? path verb
        = some operation := by
      rw [OpenApi.Paths.operation?_eq_some_iff]
      exact ⟨verbs, hverbs, hoperation⟩
    rw [operation?_catalogOf style wt, Option.bind_eq_some_iff] at hfound
    obtain ⟨⟨d, m⟩, hlast, hresult⟩ := hfound
    obtain ⟨e, he, rfl⟩ := Option.map_eq_some_iff.mp hresult
    obtain ⟨hmem, hroute⟩ := mem_of_lastFor hlast
    obtain ⟨hd, hwt⟩ := wellTyped_of_mem_handlers wt hmem
    obtain ⟨mapping, verb', hread⟩ := readFrom_of_result hwt he
    have hverb : e.verb = verb := by
      rw [route?_eq hwt, he] at hroute
      exact (Prod.mk.inj (Option.some.inj hroute)).2
    refine ⟨by cases verb <;> simp [Verb.key], verb, d, m, rfl, hlast, ?_⟩
    rw [← hverb]
    exact obeys_of_readFrom style (named d hd) hwt hread
  · obtain ⟨⟨d, m⟩, hlast⟩ := Option.isSome_iff_exists.mp hsome
    obtain ⟨hmem, hroute⟩ := mem_of_lastFor hlast
    rw [route?_eq (wellTyped_of_mem_handlers wt hmem).2] at hroute
    obtain ⟨e, he, -⟩ := Option.map_eq_some_iff.mp hroute
    have hfound : (OpenApi.paths style (catalogOf h effects ds).endpoints).1.operation? path verb
        = some (.ofEndpoint style e) := by
      rw [operation?_catalogOf style wt, hlast, Option.bind_some, he]
      rfl
    obtain ⟨verbs, hverbs, hoperation⟩ := OpenApi.Paths.operation?_eq_some_iff.mp hfound
    exact ⟨_, _, List.mem_map_of_mem hverbs, List.mem_map_of_mem hoperation⟩

/-- Naming rules in which one annotation marks path parameters and bodies alike. -/
def overloaded : Heuristics :=
  { Heuristics.standard with pathMarks := ["Bound"], bodyMarks := ["Bound"] }

/-- Methods that all answer the root: two POSTs, the last of them deprecated, and a GET. -/
def crowded : List Declaration :=
  let mapped (name mark path : String) (marks : List Mark) : Method :=
    ⟨name, .simple "void", [⟨"item", .simple "Item", [.plain "Bound"]⟩],
      ⟨mark, .ofList [("value", path)]⟩ :: marks, .none, []⟩
  [{ Declaration.bare "Controller" "shop.web" .plainClass with
      marks := [.plain "RestController"]
      methods := [mapped "add" "PostMapping" "\"\"" [], mapped "find" "GetMapping" "\"/\"" []] },
    { Declaration.bare "Archive" "shop.web" .plainClass with
      marks := [.plain "RestController"]
      methods := [mapped "store" "PostMapping" "\"/\"" [.plain "Deprecated"]] }]

theorem document_operations_crowded :
    (∀ d ∈ crowded, d.WellTyped) ∧ (∀ d ∈ crowded, d.name ≠ "") ∧
      ∃ c notices, catalog overloaded .standard crowded = .ok (c, notices) ∧
        ∃ paths, (OpenApi.document .standard c).1.toJson.get? "paths" = some (.obj paths) ∧
          ∃ verbs posted verbs' found,
            (("/", .obj verbs) ∈ paths ∧ ("post", posted) ∈ verbs ∧
              posted.get? "deprecated" = some (.bool true) ∧
              (posted.get? "requestBody").isSome = true) ∧
            ("/", .obj verbs') ∈ paths ∧ ("get", found) ∈ verbs' ∧
              found.get? "requestBody" = none := by
  have hwt : ∀ d ∈ crowded, d.WellTyped := by decide
  have hnamed : ∀ d ∈ crowded, d.name ≠ "" := by decide
  obtain ⟨c, notices, hc, paths, hpaths, hrules, hanswered⟩ :=
    document_operations overloaded .standard .standard hwt hnamed
  obtain ⟨verbs, posted, hverbs, hposted⟩ := hanswered "/" .post (by decide)
  obtain ⟨verbs', found, hverbs', hfound⟩ := hanswered "/" .get (by decide)
  refine ⟨hwt, hnamed, c, notices, hc, paths, hpaths, verbs, posted, verbs', found,
    ⟨hverbs, hposted, ?_⟩, hverbs', hfound, ?_⟩
  · obtain ⟨_, heq, hall⟩ := hrules _ _ hverbs
    cases heq
    obtain ⟨-, verb, d, m, hverb, hlast, hobeys⟩ := hall _ _ hposted
    obtain rfl := Verb.key_injective hverb
    have hstore : ((lastFor overloaded crowded ("/", .post)).map fun x =>
        (Mark.any x.2.marks [overloaded.deprecationMark],
          x.2.parameters.any fun p => Mark.any p.marks overloaded.bodyMarks))
        = some (true, true) := by decide
    simp only [hlast, Option.map_some, Option.some.injEq, Prod.mk.injEq, List.any_eq_true]
      at hstore
    exact ⟨hobeys.deprecated.trans (if_pos hstore.1),
      hobeys.requestBody.mpr ⟨by decide, hstore.2⟩⟩
  · obtain ⟨_, heq, hall⟩ := hrules _ _ hverbs'
    cases heq
    obtain ⟨-, verb, d, m, hverb, hlast, hobeys⟩ := hall _ _ hfound
    obtain rfl := Verb.key_injective hverb
    rw [← Option.not_isSome_iff_eq_none, hobeys.requestBody]
    exact fun hbody => hbody.1 rfl

end Survey

end ServiceAtlas
