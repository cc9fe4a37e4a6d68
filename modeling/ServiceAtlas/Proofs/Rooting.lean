/-
Which paths of a document begin with a slash.

Joining keeps the beginning of the path in front: trailing slashes are all that it loses, and
where nothing is left of it the slash of the join comes first.  So it is the path of the
controller, and never that of the method, which decides how a joined path begins.  Without a
path of the controller, or with one that begins with a slash, the joined path begins with a
slash or is empty and then stands under the root; with any other, the joined path begins as
the path of the controller does.

Every key of a document is the route of a method of a controller, so `isRooted_of_route`
speaks of all of them.
-/
import Mathlib.Data.List.DropRight
import ServiceAtlas.Proofs.Operations

namespace ServiceAtlas

namespace Path

/-- The path begins with a slash. -/
def IsRooted (path : String) : Prop :=
  path.toList.head? = some '/'

instance : DecidablePred IsRooted :=
  fun path => inferInstanceAs (Decidable (path.toList.head? = some '/'))

/-- A path stands for the root when it is empty, so it is listed with a slash in front exactly
when it is empty or has one. -/
theorem isRooted_orRoot_iff (path : String) :
    IsRooted (if path.isEmpty then "/" else path) ↔ path = "" ∨ IsRooted path := by
  by_cases hempty : path = ""
  · subst hempty
    exact ⟨fun _ => Or.inl rfl, fun _ => rfl⟩
  · simp [hempty]

/-- A path that is continued begins with a slash exactly when it is empty or begins with one
itself. -/
theorem head?_joinChars {base relative : List Char} (hrelative : relative ≠ []) :
    (joinChars base relative).head? = some '/' ↔ base = [] ∨ base.head? = some '/' := by
  have hnonempty : relative.isEmpty = false := by simpa using hrelative
  unfold joinChars
  rw [hnonempty]
  show (List.rdropWhile (· = '/') base ++ '/' :: _).head? = _ ↔ _
  cases hkept : List.rdropWhile (fun c => decide (c = '/')) base with
  | nil =>
      -- The path in front is nothing but slashes.
      rw [List.rdropWhile_eq_nil_iff] at hkept
      cases base with
      | nil => simp
      | cons c rest => simpa using hkept c List.mem_cons_self
  | cons c kept =>
      obtain ⟨dropped, hbase⟩ : c :: kept <+: base := hkept ▸ List.rdropWhile_prefix _ _
      simp [← hbase]

/-- Joining does not change whether a path is empty or begins with a slash. -/
theorem isRooted_join_iff (base relative : String) :
    join base relative = "" ∨ IsRooted (join base relative) ↔ base = "" ∨ IsRooted base := by
  unfold IsRooted join
  rw [String.ofList_eq_empty_iff, String.toList_ofList, ← String.toList_eq_nil_iff]
  by_cases hrelative : relative.toList = []
  · have hjoined : joinChars base.toList relative.toList = base.toList := by
      simp [joinChars, hrelative]
    rw [hjoined]
  · have hjoined : joinChars base.toList relative.toList ≠ [] := by
      simp [joinChars, hrelative]
    rw [or_iff_right hjoined]
    exact head?_joinChars hrelative

end Path

namespace Survey

variable {h : Heuristics} {effects : EffectTable} {ds : List Declaration} {d : Declaration}
  {m : Method}

/-- The path of a controller decides how the routes of its methods begin. -/
theorem isRooted_of_route {key : String} {verb : Verb} (hroute : route? h d m = some (key, verb)) :
    Path.IsRooted key ↔ controllerPath h d = "" ∨ Path.IsRooted (controllerPath h d) := by
  obtain ⟨mapping, -, hverb⟩ := Option.bind_eq_some_iff.mp hroute
  obtain ⟨_, -, hkey⟩ := Option.map_eq_some_iff.mp hverb
  obtain rfl := (Prod.mk.inj hkey).1
  exact (Path.isRooted_orRoot_iff _).trans (Path.isRooted_join_iff _ _)

/-- **The paths of a document are the routes of the methods of controllers.** -/
theorem mem_keys_catalogOf (style : DocumentStyle) (wt : ∀ d ∈ ds, d.WellTyped) (key : String) :
    key ∈ (OpenApi.paths style (catalogOf h effects ds).endpoints).1.keys ↔
      ∃ d m verb, (d, m) ∈ handlers h ds ∧ route? h d m = some (key, verb) := by
  have hkeys : (OpenApi.paths style (catalogOf h effects ds).endpoints).1.keys
      = ((endpointsOf h ds).map OpenApi.pathKey).eraseDups := by
    show (OpenApi.paths style (Edge.attachAll _ _)).1.keys = _
    rw [OpenApi.paths_attachAll, OpenApi.keys_paths]
  rw [hkeys, List.mem_eraseDups, List.mem_map, endpointsOf_eq_filterMap wt]
  constructor
  · rintro ⟨e, he, rfl⟩
    obtain ⟨⟨d, m⟩, hmem, hresult⟩ := List.mem_filterMap.mp he
    refine ⟨d, m, e.verb, hmem, ?_⟩
    rw [route?_eq (wellTyped_of_mem_handlers wt hmem).2, hresult]
    rfl
  · rintro ⟨d, m, verb, hmem, hroute⟩
    rw [route?_eq (wellTyped_of_mem_handlers wt hmem).2] at hroute
    obtain ⟨e, hresult, heq⟩ := Option.map_eq_some_iff.mp hroute
    exact ⟨e, List.mem_filterMap.mpr ⟨_, hmem, hresult⟩, (Prod.mk.inj heq).1⟩

/-- The members of the paths as they are written are the routes of methods. -/
theorem document_routes (h : Heuristics) (effects : EffectTable) (style : DocumentStyle)
    (wt : ∀ d ∈ ds, d.WellTyped) :
    ∃ c notices, catalog h effects ds = .ok (c, notices) ∧
      ∃ paths, (OpenApi.document style c).1.toJson.get? "paths" = some (.obj paths) ∧
        ∀ key, key ∈ paths.map Prod.fst ↔
          ∃ d m verb, (d, m) ∈ handlers h ds ∧ route? h d m = some (key, verb) := by
  refine ⟨_, _, catalog_ok wt, _, rfl, fun key => ?_⟩
  rw [List.map_map]
  exact mem_keys_catalogOf style wt key

/--
**The path of the controller decides how a path of a document begins.**  The paths are the
routes of the methods of controllers, and each of them begins with a slash exactly when the
path of its controller is absent, empty or begins with a slash itself, whatever the path of
the method is.
-/
theorem document_rooted (h : Heuristics) (effects : EffectTable) (style : DocumentStyle)
    {ds : List Declaration} (wt : ∀ d ∈ ds, d.WellTyped) :
    ∃ c notices, catalog h effects ds = .ok (c, notices) ∧
      ∃ paths, (OpenApi.document style c).1.toJson.get? "paths" = some (.obj paths) ∧
        (∀ key ∈ paths.map Prod.fst,
          ∃ d m verb, (d, m) ∈ handlers h ds ∧ route? h d m = some (key, verb)) ∧
        ∀ d m key verb, (d, m) ∈ handlers h ds → route? h d m = some (key, verb) →
          key ∈ paths.map Prod.fst ∧
            (Path.IsRooted key ↔
              controllerPath h d = "" ∨ Path.IsRooted (controllerPath h d)) := by
  obtain ⟨c, notices, hc, paths, hpaths, hroutes⟩ := document_routes h effects style wt
  refine ⟨c, notices, hc, paths, hpaths, fun key => (hroutes key).mp, ?_⟩
  intro d m key verb hmem hroute
  exact ⟨(hroutes key).mpr ⟨d, m, verb, hmem, hroute⟩, isRooted_of_route hroute⟩

/-- Controllers with a path that is nothing but slashes, without a path, and with one that
has no slash in front; the methods have paths with and without a slash. -/
def mounted : List Declaration :=
  let read (path : String) : Method :=
    ⟨"read", .simple "Item", [], [⟨"GetMapping", .ofList [("value", path)]⟩], .none, []⟩
  let controller (name : String) (marks : List Mark) (path : String) : Declaration :=
    { Declaration.bare name "shop.web" .plainClass with
      marks := .plain "RestController" :: marks
      methods := [read path] }
  [controller "Slashes" [⟨"RequestMapping", .ofList [("value", "\"//\"")]⟩] "\"items\"",
    controller "Bare" [] "\"\"",
    controller "Relative" [⟨"RequestMapping", .ofList [("value", "\"shop\"")]⟩] "\"/items\""]

theorem document_rooted_mounted :
    (∀ d ∈ mounted, d.WellTyped) ∧
      ∃ c notices, catalog .standard .standard mounted = .ok (c, notices) ∧
        ∃ paths, (OpenApi.document .standard c).1.toJson.get? "paths" = some (.obj paths) ∧
          ("/items" ∈ paths.map Prod.fst ∧ Path.IsRooted "/items") ∧
          ("/" ∈ paths.map Prod.fst ∧ Path.IsRooted "/") ∧
          "shop/items" ∈ paths.map Prod.fst ∧ ¬ Path.IsRooted "shop/items" := by
  have hwt : ∀ d ∈ mounted, d.WellTyped := by decide
  obtain ⟨c, notices, hc, paths, hpaths, -, hrooted⟩ :=
    document_rooted .standard .standard .standard hwt
  have hslashes : ∃ x ∈ handlers .standard mounted,
      route? .standard x.1 x.2 = some ("/items", .get) ∧
        Path.IsRooted (controllerPath .standard x.1) := by decide
  have hbare : ∃ x ∈ handlers .standard mounted,
      route? .standard x.1 x.2 = some ("/", .get) ∧ controllerPath .standard x.1 = "" := by decide
  have hrelative : ∃ x ∈ handlers .standard mounted,
      route? .standard x.1 x.2 = some ("shop/items", .get) ∧
        controllerPath .standard x.1 = "shop" := by decide
  obtain ⟨⟨d, m⟩, hmem, hroute, hpath⟩ := hslashes
  obtain ⟨⟨d', m'⟩, hmem', hroute', hpath'⟩ := hbare
  obtain ⟨⟨d'', m''⟩, hmem'', hroute'', hpath''⟩ := hrelative
  obtain ⟨hkey, hiff⟩ := hrooted d m _ _ hmem hroute
  obtain ⟨hkey', hiff'⟩ := hrooted d' m' _ _ hmem' hroute'
  obtain ⟨hkey'', hiff''⟩ := hrooted d'' m'' _ _ hmem'' hroute''
  refine ⟨hwt, c, notices, hc, paths, hpaths, ⟨hkey, hiff.mpr (Or.inr hpath)⟩,
    ⟨hkey', hiff'.mpr (Or.inl hpath')⟩, hkey'', fun hc => ?_⟩
  have hcontroller := hiff''.mp hc
  rw [hpath''] at hcontroller
  exact absurd hcontroller (by decide)

/-- A controller whose path has no slash in front. -/
def slashless : List Declaration :=
  [{ Declaration.bare "UserController" "shop.web" .plainClass with
      marks := [.plain "RestController", ⟨"RequestMapping", .ofList [("value", "\"api\"")]⟩]
      methods := [⟨"all", .simple "User", [],
        [⟨"GetMapping", .ofList [("value", "\"users\"")]⟩], .none, []⟩] }]

/-- A path of a document can begin without a slash. -/
theorem not_isRooted_slashless :
    (∀ d ∈ slashless, d.WellTyped) ∧
      ∃ c notices, catalog .standard .standard slashless = .ok (c, notices) ∧
        ∃ paths, (OpenApi.document .standard c).1.toJson.get? "paths" = some (.obj paths) ∧
          "api/users" ∈ paths.map Prod.fst ∧ ¬ Path.IsRooted "api/users" := by
  have hwt : ∀ d ∈ slashless, d.WellTyped := by decide
  obtain ⟨c, notices, hc, paths, hpaths, hroutes⟩ :=
    document_routes .standard .standard .standard hwt
  have hroute : ∃ x ∈ handlers .standard slashless,
      route? .standard x.1 x.2 = some ("api/users", .get) := by decide
  obtain ⟨⟨d, m⟩, hmem, hroute⟩ := hroute
  exact ⟨hwt, c, notices, hc, paths, hpaths, (hroutes _).mpr ⟨d, m, .get, hmem, hroute⟩,
    by decide⟩

end Survey

end ServiceAtlas
