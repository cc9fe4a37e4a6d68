/-
The endpoints of a controller stay in one group.

The group of an endpoint is its first tag, and only without one it is a part of its path that
depends on all other paths.  The endpoints of a controller have the tags of the controller, and a
controller with a name has tags, none of them empty: empty names in its grouping annotation are
left out, and an ending that is the whole name is left on it.  So no path is looked at.  The
group is a function of the controller, and what the table and the map show of a controller is the
same whatever other controllers there are.
-/
import ServiceAtlas.Proofs.Collaborators
import ServiceAtlas.Proofs.MapFrames
import ServiceAtlas.Proofs.Operations

namespace ServiceAtlas

/-! ### Groups of endpoints with tags -/

namespace Report

/-- Where all endpoints have tags, paths do not count. -/
theorem groups_of_tags {es : List Endpoint} (htags : ∀ e ∈ es, e.tags.headD "" ≠ "") :
    groups es = es.map fun e => e.tags.headD "" := by
  rw [groups_eq_map]
  exact List.map_congr_left fun e he => groupAmong_of_tag es (htags e he)

theorem endpointRows_perm (es : List Endpoint) :
    (endpointRows es).Perm (es.map fun e => Row.ofEndpoint e (groupAmong es e)) := by
  rw [endpointRows, groups_eq_map, List.zipWith_map_right, List.zipWith_self]
  exact List.mergeSort_perm _ _

/-! ### Endpoints in runs -/

/-- Items that come in runs, each of them kept or dropped as a whole. -/
theorem filter_flatMap_of_const {α β : Type} {own : α → List β} {p : β → Bool} {q : α → Bool} :
    ∀ {xs : List α}, (∀ x ∈ xs, ∀ y ∈ own x, p y = q x) →
      (xs.flatMap own).filter p = (xs.filter q).flatMap own := by
  intro xs
  induction xs with
  | nil => intro _; rfl
  | cons x xs ih =>
      intro hrun
      rw [List.forall_mem_cons] at hrun
      rw [List.flatMap_cons, List.filter_append, ih hrun.2]
      by_cases hx : q x = true
      · have hkeep : (own x).filter p = own x :=
          List.filter_eq_self.mpr fun y hy => (hrun.1 y hy).trans hx
        rw [hkeep, List.filter_cons_of_pos hx, List.flatMap_cons]
      · have hdrop : (own x).filter p = [] :=
          List.filter_eq_nil_iff.mpr fun y hy => by rwa [hrun.1 y hy]
        rw [hdrop, List.filter_cons_of_neg hx, List.nil_append]

section Runs

variable {α : Type} {xs : List α} {own : α → List Endpoint} {group : α → String}
  {es : List Endpoint} (hlisted : es = xs.flatMap own)
  (hgroup : ∀ x ∈ xs, ∀ e ∈ own x, groupAmong es e = group x)

include hlisted hgroup

theorem map_of_runs {β : Type} (f : Endpoint → String → β) :
    es.map (fun e => f e (groupAmong es e)) = xs.flatMap fun x => (own x).map (f · (group x)) :=
  calc es.map (fun e => f e (groupAmong es e))
      = (xs.flatMap own).map fun e => f e (groupAmong es e) := by rw [← hlisted]
    _ = xs.flatMap fun x => (own x).map fun e => f e (groupAmong es e) := List.map_flatMap
    _ = xs.flatMap fun x => (own x).map (f · (group x)) :=
      List.flatMap_congr fun x hx => List.map_congr_left fun e he => by rw [hgroup x hx e he]

theorem members_of_runs (name : String) :
    members es name = (xs.filter (group · = name)).flatMap own := by
  have hrun : ∀ x ∈ xs, ∀ e ∈ own x, decide (groupAmong es e = name) = decide (group x = name) :=
    fun x hx e he => by rw [hgroup x hx e he]
  rw [members_eq_filter, ← filter_flatMap_of_const hrun, ← hlisted]

end Runs

end Report

namespace Survey

open Report

/-! ### What a controller shows -/

section Controller

variable (h : Heuristics) (d : Declaration)

/-- The group of a controller: the first of its tags. -/
def controllerGroup : String :=
  (controllerTags h d).headD ""

/-- The endpoints of a controller as the catalog of the declarations has them, with the
collaborators of all declarations of its qualified name. -/
def endpointsAmong (ds : List Declaration) : List Endpoint :=
  (endpoints h d).result.map fun e => { e with
    dependencies := (ds.filter (·.qualifiedName = d.qualifiedName)).flatMap (·.collaborators h) }

/-- The rows of a controller. -/
def controllerRows : List Row :=
  (endpoints h d).result.map fun e => Row.ofEndpoint e (controllerGroup h d)

/-- The labels of the boxes of a controller. -/
def controllerLabels : List String :=
  (endpoints h d).result.map label

end Controller

variable {h : Heuristics} {d : Declaration} {ds : List Declaration}

theorem controllerGroup_ne_empty (hname : d.name ≠ "") : controllerGroup h d ≠ "" := by
  obtain ⟨hne, hall⟩ := controllerTags_named (h := h) hname
  obtain ⟨tag, tags, htags⟩ := List.exists_cons_of_ne_nil hne
  rw [controllerGroup, htags]
  exact hall tag (htags ▸ List.mem_cons_self)

theorem tags_of_mem_endpointsAmong (wt : d.WellTyped) {e : Endpoint}
    (he : e ∈ endpointsAmong h d ds) : e.tags = controllerTags h d := by
  obtain ⟨e', he', rfl⟩ := List.mem_map.mp he
  obtain ⟨m, -, mapping, verb, hread⟩ := readFrom_of_mem_endpoints wt he'
  exact hread.tags

theorem map_rowOf_endpointsAmong (ds : List Declaration) :
    (endpointsAmong h d ds).map (Row.ofEndpoint · (controllerGroup h d)) = controllerRows h d := by
  rw [endpointsAmong, List.map_map]
  rfl

theorem map_label_endpointsAmong (ds : List Declaration) :
    (endpointsAmong h d ds).map label = controllerLabels h d := by
  rw [endpointsAmong, List.map_map]
  rfl

/-! ### Groups of a catalog -/

/-- The endpoints of a catalog come controller by controller, and so do its groups, the rows of
the table and the boxes of the map. -/
structure StaysTogether (h : Heuristics) (ds : List Declaration) (es : List Endpoint) : Prop where
  read : ∀ d ∈ ofRole h .controller ds, ∃ notices,
    endpoints h d = .ok ((endpoints h d).result, notices)
  listed : es = (ofRole h .controller ds).flatMap fun d => endpointsAmong h d ds
  named : ∀ d ∈ ofRole h .controller ds,
    controllerTags h d ≠ [] ∧ ∀ tag ∈ controllerTags h d, tag ≠ ""
  tagged : ∀ d ∈ ofRole h .controller ds, ∀ e ∈ endpointsAmong h d ds, e.tags = controllerTags h d
  grouped : groups es = (ofRole h .controller ds).flatMap fun d =>
    (endpointsAmong h d ds).map fun _ => controllerGroup h d
  /-- Groups stay as they are when paths are changed. -/
  pathless : ∀ path : Endpoint → String,
    groups (es.map fun e => { e with path := path e }) = groups es
  /-- The table has the rows of each controller, whatever other controllers there are. -/
  table : (endpointRows es).Perm ((ofRole h .controller ds).flatMap (controllerRows h))
  /-- A frame of the map has the boxes of the controllers of its group. -/
  map : ∀ f ∈ frames es [] (groupNames es), f.boxes.map Box.label
    = ((ofRole h .controller ds).filter (controllerGroup h · = f.group)).flatMap
        (controllerLabels h)
  framed : ∀ d ∈ ofRole h .controller ds, controllerLabels h d ≠ [] →
    ∃ f ∈ frames es [] (groupNames es), f.group = controllerGroup h d

section Project

variable (wt : ∀ d ∈ ds, d.WellTyped) (hnamed : ∀ d ∈ ds, d.name ≠ "")

include wt hnamed

/-- Among whatever endpoints, those of a controller are in its group. -/
theorem groupAmong_of_mem_endpointsAmong (es : List Endpoint) (ds' : List Declaration) :
    ∀ d ∈ ofRole h .controller ds, ∀ e ∈ endpointsAmong h d ds',
      groupAmong es e = controllerGroup h d := by
  intro d hd e he
  have hmem := List.mem_of_mem_filter hd
  have htag := controllerGroup_ne_empty (h := h) (hnamed d hmem)
  rw [controllerGroup, ← tags_of_mem_endpointsAmong (wt d hmem) he] at htag ⊢
  exact groupAmong_of_tag es htag

theorem staysTogether {es : List Endpoint}
    (hlisted : es = (ofRole h .controller ds).flatMap fun d => endpointsAmong h d ds) :
    StaysTogether h ds es := by
  have hgroup := groupAmong_of_mem_endpointsAmong (h := h) wt hnamed es ds
  have htags : ∀ e ∈ es, e.tags.headD "" ≠ "" := by
    intro e he
    obtain ⟨d, hd, he⟩ := List.mem_flatMap.mp (hlisted ▸ he)
    have hmem := List.mem_of_mem_filter hd
    rw [tags_of_mem_endpointsAmong (wt d hmem) he]
    exact controllerGroup_ne_empty (hnamed d hmem)
  have hgroups := map_of_runs hlisted hgroup fun _ group => group
  constructor
  case read =>
    exact fun d hd => ⟨_, (endpoints_succeeds (wt d (List.mem_of_mem_filter hd))).eq_ok⟩
  case listed => exact hlisted
  case named => exact fun d hd => controllerTags_named (hnamed d (List.mem_of_mem_filter hd))
  case tagged =>
    exact fun d hd e he => tags_of_mem_endpointsAmong (wt d (List.mem_of_mem_filter hd)) he
  case grouped => exact hgroups
  case pathless =>
    intro path
    have hmoved : ∀ e ∈ es.map fun e => { e with path := path e }, e.tags.headD "" ≠ "" :=
      List.forall_mem_map.mpr htags
    rw [groups_of_tags hmoved, groups_of_tags htags, List.map_map]
    rfl
  case table =>
    have hrows := endpointRows_perm es
    rw [map_of_runs hlisted hgroup Row.ofEndpoint] at hrows
    simpa only [map_rowOf_endpointsAmong] using hrows
  case map =>
    intro f hf
    rw [labels_of_mem_frames _ _ f hf, members_of_runs hlisted hgroup, List.map_flatMap]
    simp only [map_label_endpointsAmong]
  case framed =>
    intro d hd hsome
    rw [← map_label_endpointsAmong ds, ne_eq, List.map_eq_nil_iff] at hsome
    obtain ⟨e, he⟩ := List.exists_mem_of_ne_nil _ hsome
    have hname : controllerGroup h d ∈ groupNames es := by
      rw [mem_groupNames, groups_eq_map]
      exact hgroups ▸ List.mem_flatMap.mpr ⟨d, hd, List.mem_map.mpr ⟨e, he, rfl⟩⟩
    rw [← groups_frames es (groupNames es) []] at hname
    exact List.mem_map.mp hname

end Project

/--
**All endpoints of a controller stay in one group.**  Whatever the naming rules are, the endpoints
of a controller have the tags of the controller, which are tags that are not empty, and are in the
group of the first one; what an endpoint without a tag would fall back to, a part of its path or
the default group, is never used.  The table has the rows of every controller with its group, and
the map has its boxes in the frame of its group.  Both depend on the controller alone, so that
among any other declarations its endpoints are in the same group.
-/
theorem controllers_stay_together (h : Heuristics) (effects : EffectTable) {ds : List Declaration}
    (wt : ∀ d ∈ ds, d.WellTyped) (hnamed : ∀ d ∈ ds, d.name ≠ "") :
    ∃ c notices, catalog h effects ds = .ok (c, notices) ∧ StaysTogether h ds c.endpoints ∧
      ∀ ds' : List Declaration, (∀ d ∈ ds', d.WellTyped) → (∀ d ∈ ds', d.name ≠ "") →
        ∃ c' notices', catalog h effects ds' = .ok (c', notices') ∧
          ∀ d ∈ ofRole h .controller ds, d ∈ ofRole h .controller ds' →
            (endpointsAmong h d ds').map (groupAmong c'.endpoints)
              = (endpointsAmong h d ds).map (groupAmong c.endpoints) := by
  refine ⟨_, _, catalog_ok wt, staysTogether wt hnamed (attachAll_endpointsOf wt), ?_⟩
  intro ds' wt' hnamed'
  refine ⟨_, _, catalog_ok wt', fun d hd hd' => ?_⟩
  have hgroup := groupAmong_of_mem_endpointsAmong (h := h) wt hnamed
    (catalogOf h effects ds).endpoints ds d hd
  have hgroup' := groupAmong_of_mem_endpointsAmong (h := h) wt' hnamed'
    (catalogOf h effects ds').endpoints ds' d hd'
  rw [List.map_congr_left hgroup, List.map_congr_left hgroup']
  simp [endpointsAmong]

/-- A controller whose name is nothing but the usual ending, one with an empty name before another
in its grouping annotation, and one whose grouping annotation names nothing. -/
def desks : List Declaration :=
  let read (path : String) : Method :=
    ⟨"read", .simple "void", [], [⟨"GetMapping", .ofList [("value", path)]⟩], .none, []⟩
  [{ Declaration.bare "Controller" "library.web" .plainClass with
      marks := [.plain "RestController"]
      methods := [read "\"/desk\""] },
    { Declaration.bare "ShelfController" "library.web" .plainClass with
      marks := [.plain "RestController", ⟨"Tag", .ofList [("name", "\x7b\"\", \"Loans\"\x7d")]⟩]
      methods := [read "\"/desk/open\"", read "\"\""] },
    { Declaration.bare "ReturnController" "library.web" .plainClass with
      marks := [.plain "RestController", ⟨"Api", .ofList [("tags", "\x7b\x7d")]⟩]
      methods := [read "\"/\""] }]

theorem controllers_stay_together_desks :
    (∀ d ∈ desks, d.WellTyped) ∧ (∀ d ∈ desks, d.name ≠ "") ∧
      ∃ c notices, catalog .standard .standard desks = .ok (c, notices) ∧
        groups c.endpoints = ["Controller", "Loans", "Loans", "Return"] ∧
        ∃ c' notices', catalog .standard .standard (desks.drop 2) = .ok (c', notices') ∧
          groups c'.endpoints = ["Return"] ∧
          ∀ d ∈ ofRole .standard .controller (desks.drop 2),
            (endpointsAmong .standard d (desks.drop 2)).map (groupAmong c'.endpoints)
              = (endpointsAmong .standard d desks).map (groupAmong c.endpoints) := by
  have hwt : ∀ d ∈ desks, d.WellTyped := by decide
  have hnamed : ∀ d ∈ desks, d.name ≠ "" := by decide
  have hwt' : ∀ d ∈ desks.drop 2, d.WellTyped := by decide
  have hnamed' : ∀ d ∈ desks.drop 2, d.name ≠ "" := by decide
  have hkept : ofRole .standard .controller (desks.drop 2) ⊆ ofRole .standard .controller desks :=
    ((List.drop_sublist 2 desks).filter _).subset
  obtain ⟨c, notices, hc, htogether, hothers⟩ :=
    controllers_stay_together .standard .standard hwt hnamed
  obtain ⟨c', notices', hc', hsame⟩ := hothers (desks.drop 2) hwt' hnamed'
  obtain ⟨_, _, hagain, htogether', -⟩ := controllers_stay_together .standard .standard hwt' hnamed'
  cases hc'.symm.trans hagain
  exact ⟨hwt, hnamed, c, notices, hc, htogether.grouped.trans (by decide), c', notices', hc',
    htogether'.grouped.trans (by decide), fun d hd => hsame d (hkept hd) hd⟩

end Survey

end ServiceAtlas
