/-
The order of declarations is the order of the output and nothing else.

Permuting the declarations permutes the models, and it permutes the endpoints with their
dependencies as long as no two declarations share a qualified name: dependencies are grouped
by that name, and two declarations of one name would give theirs in the order they come in.

A document is built by folds in which the last writer wins, so it can show the order only
where two writers meet.  Where no two models share a name and no two endpoints share a verb
and a path, the maps of the two documents answer every key alike, and maps that answer
alike differ at most in the order of their entries.  `Json.Alike` is that relation on whole
documents.
-/
import Mathlib.Data.Prod.Basic
import ServiceAtlas.OpenApi.Document
import ServiceAtlas.Proofs.Collaborators

namespace ServiceAtlas

theorem Verb.key_injective : Function.Injective Verb.key := by
  intro v w hvw
  cases v <;> cases w <;> first | rfl | exact absurd hvw (by decide)

/-! ### Values up to the order of members -/

/-- Two values that differ at most in the order of the members of their objects: the least
preorder that permutes distinctly named members and that holds inside arrays and objects. -/
inductive Json.Alike : Json → Json → Prop
  | refl (v : Json) : Alike v v
  | trans {u v w : Json} (huv : Alike u v) (hvw : Alike v w) : Alike u w
  | permute {ms ns : List (String × Json)} (distinct : (ms.map Prod.fst).Nodup)
      (hperm : ms.Perm ns) : Alike (.obj ms) (.obj ns)
  | member (before behind : List (String × Json)) (name : String) {v w : Json}
      (hvw : Alike v w) :
      Alike (.obj (before ++ (name, v) :: behind)) (.obj (before ++ (name, w) :: behind))
  | item (before behind : List Json) {v w : Json} (hvw : Alike v w) :
      Alike (.arr (before ++ v :: behind)) (.arr (before ++ w :: behind))

namespace Json

/-- Members can be exchanged for alike ones, all at once. -/
theorem alike_obj_map {f g : String → Json} :
    ∀ (keys : List String) (before : List (String × Json)), (∀ k ∈ keys, Alike (f k) (g k)) →
      Alike (.obj (before ++ keys.map fun k => (k, f k)))
        (.obj (before ++ keys.map fun k => (k, g k))) := by
  intro keys
  induction keys with
  | nil => intro before _; exact .refl _
  | cons k rest ih =>
      intro before h
      have hfirst : Alike (.obj (before ++ (k, f k) :: rest.map fun k => (k, f k)))
          (.obj (before ++ (k, g k) :: rest.map fun k => (k, f k))) :=
        .member before _ k (h k (by simp))
      have hrest := ih (before ++ [(k, g k)]) fun k' hk' => h k' (by simp [hk'])
      rw [List.append_assoc, List.append_assoc] at hrest
      exact hfirst.trans hrest

/-- Maps whose look-ups are alike are alike as objects. -/
theorem alike_ofMap {α : Type} {f : α → Json} {m n : OrderedMap String α}
    (h : ∀ k, Option.Rel (fun a b => Alike (f a) (f b)) (m.get? k) (n.get? k)) :
    Alike (ofMap f m) (ofMap f n) := by
  have hkeys : m.keys.Perm n.keys := by
    refine OrderedMap.keys_perm fun k => ?_
    have hk := h k
    rw [OrderedMap.mem_keys_iff, OrderedMap.mem_keys_iff]
    generalize m.get? k = a at hk
    generalize n.get? k = b at hk
    cases hk <;> simp
  have hvalues : ∀ k ∈ m.keys,
      Alike (((m.get? k).map f).getD null) (((n.get? k).map f).getD null) := by
    intro k _
    have hk := h k
    generalize m.get? k = a at hk
    generalize n.get? k = b at hk
    cases hk with
    | none => exact .refl _
    | some hab => exact hab
  unfold ofMap
  rw [OrderedMap.map_entries_eq f null m, OrderedMap.map_entries_eq f null n]
  refine (alike_obj_map m.keys [] hvalues).trans (.permute ?_ (hkeys.map _))
  rw [List.nil_append, List.map_map]
  exact m.nodup.map_on fun _ _ _ _ hc => hc

end Json

namespace OpenApi

variable (style : DocumentStyle)

/-! ### The operation under a path and a verb -/

namespace Paths

/-- The operation under a path and a verb. -/
def operation? (paths : Paths) (key : String) (verb : Verb) : Option Operation :=
  (paths.item key).get? verb

theorem item_add (paths : Paths) (e : Endpoint) (key : String) :
    (paths.add style e).item key
      = if key = pathKey e then (paths.item key).insert e.verb (.ofEndpoint style e)
        else paths.item key := by
  unfold item add
  rw [OrderedMap.get?_insert]
  by_cases hkey : key = pathKey e
  · subst hkey
    simp [item]
  · simp [hkey]

theorem operation?_add (paths : Paths) (e : Endpoint) (key : String) (verb : Verb) :
    (paths.add style e).operation? key verb
      = if (key, verb) = (pathKey e, e.verb) then some (.ofEndpoint style e)
        else paths.operation? key verb := by
  unfold operation?
  rw [item_add]
  by_cases hkey : key = pathKey e
  · subst hkey
    rw [if_pos rfl, OrderedMap.get?_insert]
    simp
  · simp [hkey]

/-- Each endpoint with its path and its verb. -/
def written (es : List Endpoint) : List ((String × Verb) × Operation) :=
  es.map fun e => ((pathKey e, e.verb), .ofEndpoint style e)

theorem operation?_addAll :
    ∀ (es : List Endpoint) (paths : Paths) (flat : OrderedMap (String × Verb) Operation),
      (∀ key verb, paths.operation? key verb = flat.get? (key, verb)) →
        ∀ key verb, (addAll style paths es).1.operation? key verb
          = ((written style es).foldl (fun m p => m.insert p.1 p.2) flat).get? (key, verb) := by
  intro es
  induction es with
  | nil => intro paths flat h; exact h
  | cons e rest ih =>
      intro paths flat h
      refine ih (paths.add style e) (flat.insert (pathKey e, e.verb) (.ofEndpoint style e)) ?_
      intro key verb
      rw [operation?_add, OrderedMap.get?_insert, h key verb]

theorem addAll_eq_foldl :
    ∀ (es : List Endpoint) (paths : Paths),
      (addAll style paths es).1 = es.foldl (add style) paths := by
  intro es
  induction es with
  | nil => intro paths; rfl
  | cons e rest ih => intro paths; exact ih (paths.add style e)

end Paths

/-- **The nested map of a document answers as the flat map of its endpoints**, in which the
last endpoint of a path and a verb decides. -/
theorem operation?_paths (es : List Endpoint) (key : String) (verb : Verb) :
    (paths style es).1.operation? key verb
      = (OrderedMap.ofList (Paths.written style es)).get? (key, verb) :=
  Paths.operation?_addAll style es ∅ ∅ (fun _ _ => rfl) key verb

/-- Paths keep the place of their first endpoint. -/
theorem keys_paths (es : List Endpoint) :
    (paths style es).1.keys = (es.map pathKey).eraseDups := by
  have hstep (paths : Paths) (e : Endpoint) : (paths.add style e).keys
      = if pathKey e ∈ paths.keys then paths.keys else paths.keys ++ [pathKey e] :=
    OrderedMap.keys_insert paths _ _
  rw [paths, Paths.addAll_eq_foldl]
  exact OrderedMap.foldl_firstSeen hstep es ∅ [] rfl

/-! ### Documents of permuted records -/

variable {style}

theorem alike_itemJson {a b : OrderedMap Verb Operation} (h : ∀ verb, a.get? verb = b.get? verb) :
    Json.Alike (itemJson a) (itemJson b) := by
  refine .permute ?_ ((OrderedMap.entries_perm h).map _)
  have hnodup := a.nodup.map Verb.key_injective
  rw [List.map_map] at hnodup ⊢
  exact hnodup

theorem alike_paths {es es' : List Endpoint} (hperm : es.Perm es')
    (hdistinct : (es.map fun e => (e.verb, pathKey e)).Nodup) :
    Json.Alike (.ofMap itemJson (paths style es).1) (.ofMap itemJson (paths style es').1) := by
  have hpairs : ((Paths.written style es).map Prod.fst).Nodup := by
    have hswap := hdistinct.map Prod.swap_injective
    rw [List.map_map] at hswap
    rw [Paths.written, List.map_map]
    exact hswap
  have hanswers : ∀ key verb, ((paths style es).1.item key).get? verb
      = ((paths style es').1.item key).get? verb := by
    intro key verb
    have hflat := OrderedMap.get?_ofList_perm (hperm.map _) hpairs (key, verb)
    exact (operation?_paths style es key verb).trans
      (hflat.trans (operation?_paths style es' key verb).symm)
  have hkeys : ∀ key, key ∈ (paths style es).1.keys ↔ key ∈ (paths style es').1.keys := by
    intro key
    rw [keys_paths, keys_paths, List.mem_eraseDups, List.mem_eraseDups,
      (hperm.map pathKey).mem_iff]
  refine Json.alike_ofMap fun key => ?_
  have hitem := hanswers key
  unfold Paths.item at hitem
  have hkey := hkeys key
  rw [OrderedMap.mem_keys_iff, OrderedMap.mem_keys_iff] at hkey
  cases hm : (paths style es).1.get? key with
  | none =>
      cases hn : (paths style es').1.get? key with
      | none => exact .none
      | some b => simp [hm, hn] at hkey
  | some a =>
      cases hn : (paths style es').1.get? key with
      | none => simp [hm, hn] at hkey
      | some b =>
          rw [hm, hn] at hitem
          exact .some (alike_itemJson hitem)

theorem alike_schemas {ms ms' : List Model} (hperm : ms.Perm ms')
    (hdistinct : (ms.map (·.name)).Nodup) :
    Json.Alike (.ofMap modelSchemaJson (modelSchemas ms))
      (.ofMap modelSchemaJson (modelSchemas ms')) := by
  have hpairs : ((ms.map fun m => (m.name, modelSchema m)).map Prod.fst).Nodup := by
    rw [List.map_map]
    exact hdistinct
  refine Json.alike_ofMap fun name => ?_
  rw [modelSchemas, modelSchemas, OrderedMap.get?_ofList_perm (hperm.map _) hpairs name]
  cases (OrderedMap.ofList (ms'.map fun m => (m.name, modelSchema m))).get? name with
  | none => exact .none
  | some a => exact .some (.refl _)

/-- Documents of one style are alike when their paths and their schemas are. -/
theorem alike_toJson {d d' : Document} (htitle : d.title = d'.title)
    (hversion : d.version = d'.version) (hservers : d.servers = d'.servers)
    (hpaths : Json.Alike (.ofMap itemJson d.paths) (.ofMap itemJson d'.paths))
    (hschemas : Json.Alike (.ofMap modelSchemaJson d.schemas) (.ofMap modelSchemaJson d'.schemas)) :
    Json.Alike d.toJson d'.toJson := by
  unfold Document.toJson
  rw [htitle, hversion, hservers]
  -- The paths are exchanged first and the schemas behind them, inside the last member.
  refine .trans (.member [_, _, _] [_] "paths" hpaths) ?_
  exact .member [_, _, _, _] [] "components" (.member [] [] "schemas" hschemas)

/-- Where no two records meet, documents of permuted records differ in order alone. -/
theorem alike_document (style : DocumentStyle) {c c' : Catalog}
    (hendpoints : c.endpoints.Perm c'.endpoints) (hmodels : c.models.Perm c'.models)
    (hoperations : (c.endpoints.map fun e => (e.verb, pathKey e)).Nodup)
    (hnames : (c.models.map (·.name)).Nodup) :
    Json.Alike (document style c).1.toJson (document style c').1.toJson :=
  alike_toJson rfl rfl rfl (alike_paths hendpoints hoperations) (alike_schemas hmodels hnames)

end OpenApi

namespace Survey

variable {h : Heuristics}

/-! ### Catalogs of permuted declarations -/

theorem perm_ofRole {ds ds' : List Declaration} (role : Role) (hperm : ds.Perm ds') :
    (ofRole h role ds).Perm (ofRole h role ds') :=
  hperm.filter _

theorem perm_modelsOf (effects : EffectTable) {ds ds' : List Declaration} (hperm : ds.Perm ds') :
    (modelsOf h effects ds).Perm (modelsOf h effects ds') :=
  ((perm_ofRole .model hperm).map _).append ((hperm.filter _).map _)

/-- Where qualified names are distinct, a declaration is alone in going by its own. -/
theorem filter_qualifiedName {d : Declaration} :
    ∀ {ds : List Declaration}, (ds.map (·.qualifiedName)).Nodup → d ∈ ds →
      ds.filter (·.qualifiedName = d.qualifiedName) = [d] := by
  intro ds
  induction ds with
  | nil => intro _ hd; cases hd
  | cons first rest ih =>
      intro hnd hd
      rw [List.map_cons, List.nodup_cons] at hnd
      rcases List.mem_cons.mp hd with rfl | hrest
      · have hothers : rest.filter (·.qualifiedName = d.qualifiedName) = [] := by
          refine List.filter_eq_nil_iff.mpr fun o ho hname => hnd.1 ?_
          exact List.mem_map.mpr ⟨o, ho, of_decide_eq_true hname⟩
        rw [List.filter_cons_of_pos (by simp), hothers]
      · have hne : first.qualifiedName ≠ d.qualifiedName := fun hc =>
          hnd.1 (hc ▸ List.mem_map.mpr ⟨d, hrest, rfl⟩)
        rw [List.filter_cons_of_neg (by simpa using hne), ih hnd.2 hrest]

/-- Where qualified names are distinct, an endpoint has the collaborators of its controller
and of no other declaration, so it does not depend on the declarations around. -/
theorem attachAll_endpointsOf_distinct {ds : List Declaration} (wt : ∀ d ∈ ds, d.WellTyped)
    (hnd : (ds.map (·.qualifiedName)).Nodup) :
    Edge.attachAll (Edge.all h ds) (endpointsOf h ds)
      = (ofRole h .controller ds).flatMap fun d => (endpoints h d).result.map fun e =>
          { e with dependencies := d.collaborators h } := by
  rw [attachAll_endpointsOf wt]
  refine List.flatMap_congr fun d hd => ?_
  rw [filter_qualifiedName hnd (List.mem_of_mem_filter hd), List.flatMap_singleton]

/--
**The order of declarations is the order of the output and nothing else.**  Permuted
declarations have the same models up to order and the same components; with distinct
qualified names they have the same endpoints up to order, dependencies included; and where
furthermore no two models and no two endpoints meet in the document, the two documents
differ at most in the order of the members of their objects.
-/
theorem catalog_perm (h : Heuristics) (effects : EffectTable) (style : DocumentStyle)
    {ds ds' : List Declaration} (wt : ∀ d ∈ ds, d.WellTyped) (hperm : ds.Perm ds') :
    ∃ c notices c' notices',
      catalog h effects ds = .ok (c, notices) ∧ catalog h effects ds' = .ok (c', notices') ∧
      c.models.Perm c'.models ∧
      (∀ name, name ∈ c.components ↔ name ∈ c'.components) ∧
      ((ds.map (·.qualifiedName)).Nodup →
        c.endpoints.Perm c'.endpoints ∧
        ((c.models.map (·.name)).Nodup →
          (c.endpoints.map fun e => (e.verb, OpenApi.pathKey e)).Nodup →
            Json.Alike (OpenApi.document style c).1.toJson
              (OpenApi.document style c').1.toJson)) := by
  have wt' : ∀ d ∈ ds', d.WellTyped := fun d hd => wt d (hperm.mem_iff.mpr hd)
  have hmodels := perm_modelsOf (h := h) effects hperm
  refine ⟨_, _, _, _, catalog_ok wt, catalog_ok wt', hmodels, ?_, ?_⟩
  · intro name
    show name ∈ (Edge.injectedTargets (Edge.all h ds)).eraseDups
      ↔ name ∈ (Edge.injectedTargets (Edge.all h ds')).eraseDups
    rw [List.mem_eraseDups, List.mem_eraseDups, Edge.injectedTargets_all, Edge.injectedTargets_all,
      (hperm.flatMap_right _).mem_iff]
  · intro hnd
    have hnd' : (ds'.map (·.qualifiedName)).Nodup := (hperm.map _).nodup_iff.mp hnd
    have hendpoints : (catalogOf h effects ds).endpoints.Perm (catalogOf h effects ds').endpoints := by
      show (Edge.attachAll _ _).Perm (Edge.attachAll _ _)
      rw [attachAll_endpointsOf_distinct wt hnd, attachAll_endpointsOf_distinct wt' hnd']
      exact (perm_ofRole .controller hperm).flatMap_right _
    exact ⟨hendpoints, fun hnames hoperations =>
      OpenApi.alike_document style hendpoints hmodels hoperations hnames⟩

/-- A model and two controllers, one of which serves the root. -/
def storefront : List Declaration :=
  let field (name type : String) : Field := ⟨name, .simple type, [], .none, []⟩
  let read (name path : String) : Method :=
    ⟨name, .simple "User", [], [⟨"GetMapping", .ofList [("value", path)]⟩], .none, []⟩
  let controller (name service : String) (methods : List Method) : Declaration :=
    { Declaration.bare name "shop.web" .plainClass with
      marks := [.plain "RestController"]
      fields := [field "service" service]
      methods := methods }
  [{ Declaration.bare "User" "shop.model" .plainClass with fields := [field "name" "String"] },
    controller "Users" "UserService" [read "one" "\"/users\"", read "home" "\"\""],
    controller "Orders" "OrderService" [read "all" "\"/orders\""]]

theorem catalog_perm_storefront :
    (∀ d ∈ storefront, d.WellTyped) ∧ storefront.Perm storefront.reverse ∧
      (storefront.map (·.qualifiedName)).Nodup ∧
      ∃ c notices c' notices',
        catalog .standard .standard storefront = .ok (c, notices) ∧
        catalog .standard .standard storefront.reverse = .ok (c', notices') ∧
        (c.models.map (·.name)).Nodup ∧
        (c.endpoints.map fun e => (e.verb, OpenApi.pathKey e)).Nodup ∧
        c.endpoints.Perm c'.endpoints ∧
        Json.Alike (OpenApi.document .standard c).1.toJson
          (OpenApi.document .standard c').1.toJson := by
  have hwt : ∀ d ∈ storefront, d.WellTyped := by decide
  have hperm : storefront.Perm storefront.reverse := (List.reverse_perm _).symm
  have hnames : (storefront.map (·.qualifiedName)).Nodup := by decide
  obtain ⟨c, notices, c', notices', hc, hc', -, -, hdistinct⟩ :=
    catalog_perm .standard .standard .standard hwt hperm
  obtain ⟨hendpoints, hdocuments⟩ := hdistinct hnames
  have heq : c = catalogOf .standard .standard storefront := by
    rw [catalog_ok hwt] at hc
    cases hc
    rfl
  have hmodels : (c.models.map (·.name)).Nodup := by rw [heq]; decide
  have hoperations : (c.endpoints.map fun e => (e.verb, OpenApi.pathKey e)).Nodup := by
    rw [heq]
    decide
  exact ⟨hwt, hperm, hnames, c, notices, c', notices', hc, hc', hmodels, hoperations, hendpoints,
    hdocuments hmodels hoperations⟩

end Survey

end ServiceAtlas
