/-
Dependencies and components are the injected collaborators, no more and no less.

An endpoint finds its dependencies by the qualified name of its controller, which it puts
together anew from the name and the scope; edges carry the name that the declaration gives
itself.  The two agree, so an endpoint has the collaborators of every declaration that goes
by the name of its controller, in order, and those of no other.

`Declaration.collaborators` says what a declaration injects without speaking of edges.
Grouping is a fold over all edges, and what a fold step does to one group is all that has to
be known of it: it appends a dependency to the group of its source and leaves every other
group alone.
-/
import Mathlib.Data.List.Basic
import ServiceAtlas.Proofs.OrderedMap
import ServiceAtlas.Proofs.Catalog

namespace ServiceAtlas

/-- The collaborators of a declaration: the fields that hold one, in order, and then the
parameters that bring one, constructor by constructor. -/
def Declaration.collaborators (h : Heuristics) (d : Declaration) : List Dependency :=
  ((d.fields.filter h.injectsField).map fun f => ⟨f.name, f.type.name, .field⟩)
    ++ ((d.constructors.flatMap (·.parameters)).filter h.injectsParameter).map
        fun p => ⟨p.name, p.type.name, .constructor⟩

namespace Edge

variable {h : Heuristics}

/-! ### Injections are collaborators -/

theorem mem_injections {d : Declaration} {e : Edge} (he : e ∈ injections h d) :
    e.kind = .injection ∧ e.source = d.qualifiedName := by
  rcases List.mem_append.mp he with hfield | hparameter
  · obtain ⟨f, -, rfl⟩ := List.mem_map.mp hfield
    exact ⟨rfl, rfl⟩
  · obtain ⟨p, -, rfl⟩ := List.mem_map.mp hparameter
    exact ⟨rfl, rfl⟩

theorem kind_of_mem_inheritance {d : Declaration} {e : Edge} (he : e ∈ inheritance d) :
    e.kind ≠ .injection := by
  rcases List.mem_append.mp he with hsuper | hinterface
  · obtain ⟨t, -, rfl⟩ := List.mem_map.mp hsuper
    exact nofun
  · obtain ⟨t, -, rfl⟩ := List.mem_map.mp hinterface
    unfold ofSupertype
    split <;> exact nofun

theorem map_dependency_injections (d : Declaration) :
    (injections h d).map dependency = d.collaborators h := by
  rw [injections, Declaration.collaborators, List.map_append, List.map_map, List.map_map]
  rfl

theorem map_target_injections (d : Declaration) :
    (injections h d).map (·.target) = (d.collaborators h).map (·.type) := by
  rw [← map_dependency_injections, List.map_map]
  rfl

/-- The injections among all edges are those of the declarations in order. -/
theorem filter_injection_all (ds : List Declaration) :
    (all h ds).filter (·.kind = .injection) = ds.flatMap (injections h) := by
  have hkeep : (ds.flatMap (injections h)).filter (·.kind = .injection)
      = ds.flatMap (injections h) := by
    refine List.filter_eq_self.mpr fun e he => ?_
    obtain ⟨d, -, hd⟩ := List.mem_flatMap.mp he
    simpa using (mem_injections hd).1
  have hdrop : (ds.flatMap inheritance).filter (·.kind = .injection) = [] := by
    refine List.filter_eq_nil_iff.mpr fun e he => ?_
    obtain ⟨d, -, hd⟩ := List.mem_flatMap.mp he
    simpa using kind_of_mem_inheritance hd
  rw [all, List.filter_append, hkeep, hdrop, List.append_nil]

/-- The injections are the collaborators, each under the name of the declaration that has it. -/
theorem sources_dependencies_all (ds : List Declaration) :
    ((all h ds).filter (·.kind = .injection)).map (fun e => (e.source, e.dependency))
      = ds.flatMap fun d => (d.collaborators h).map fun dependency =>
          (d.qualifiedName, dependency) := by
  rw [filter_injection_all, List.map_flatMap]
  refine List.flatMap_congr fun d _ => ?_
  rw [← map_dependency_injections, List.map_map]
  refine List.map_congr_left fun e he => ?_
  rw [(mem_injections he).2]
  rfl

theorem injectedTargets_all (ds : List Declaration) :
    injectedTargets (all h ds) = ds.flatMap fun d => (d.collaborators h).map (·.type) := by
  rw [injectedTargets, filter_injection_all, List.map_flatMap]
  simp only [map_target_injections]

/-! ### Groups -/

/-- The dependencies that a list of edges gives a source, in order. -/
def dependenciesFrom (edges : List Edge) (source : String) : List Dependency :=
  ((edges.filter (·.kind = .injection)).filter (·.source = source)).map dependency

/-- One more edge appends to the group of its source, if it is an injection, and leaves every
other group alone. -/
theorem get?_addToGroup (groups : OrderedMap String (List Dependency)) (e : Edge) (key : String) :
    (addToGroup groups e).get? key
      = if e.kind = .injection ∧ e.source = key then
          some ((groups.get? key).getD [] ++ [e.dependency])
        else groups.get? key := by
  unfold addToGroup
  by_cases hkind : e.kind = .injection
  · rw [if_pos hkind, OrderedMap.get?_insert]
    by_cases hsource : e.source = key
    · subst hsource
      simp [hkind]
    · have hne : ¬key = e.source := fun hc => hsource hc.symm
      simp [hsource, hne]
  · simp [hkind]

theorem getD_foldl_addToGroup (key : String) :
    ∀ (edges : List Edge) (groups : OrderedMap String (List Dependency)),
      ((edges.foldl addToGroup groups).get? key).getD []
        = (groups.get? key).getD [] ++ dependenciesFrom edges key := by
  intro edges
  induction edges with
  | nil => intro groups; simp [dependenciesFrom]
  | cons e rest ih =>
      intro groups
      rw [List.foldl_cons, ih, get?_addToGroup]
      by_cases hmine : e.kind = .injection ∧ e.source = key
      · simp [dependenciesFrom, hmine.1, hmine.2]
      · rw [if_neg hmine]
        rw [not_and] at hmine
        by_cases hkind : e.kind = .injection
        · simp [dependenciesFrom, hkind, hmine hkind]
        · simp [dependenciesFrom, hkind]

/-- **A group is what the edges give its source.** -/
theorem getD_dependencies (edges : List Edge) (key : String) :
    ((dependencies edges).get? key).getD [] = dependenciesFrom edges key := by
  rw [dependencies, getD_foldl_addToGroup]
  rfl

/-- The dependencies of a name are the collaborators of all declarations that go by it. -/
theorem dependenciesFrom_all (name : String) (ds : List Declaration) :
    dependenciesFrom (all h ds) name
      = (ds.filter (·.qualifiedName = name)).flatMap (·.collaborators h) := by
  rw [dependenciesFrom, filter_injection_all]
  induction ds with
  | nil => rfl
  | cons d rest ih =>
      rw [List.flatMap_cons, List.filter_append, List.map_append, ih]
      by_cases hname : d.qualifiedName = name
      · have hkeep : (injections h d).filter (·.source = name) = injections h d := by
          refine List.filter_eq_self.mpr fun e he => ?_
          simpa [hname] using (mem_injections he).2
        simp [hkeep, hname, map_dependency_injections]
      · have hdrop : (injections h d).filter (·.source = name) = [] := by
          refine List.filter_eq_nil_iff.mpr fun e he => ?_
          simpa [(mem_injections he).2] using hname
        simp [hdrop, hname]

theorem attach_eq (groups : OrderedMap String (List Dependency)) {e : Endpoint}
    (he : e.dependencies = []) :
    attach groups e = { e with dependencies := (groups.get? e.controller).getD [] } := by
  unfold attach
  cases groups.get? e.controller with
  | none =>
      show e = { e with dependencies := [] }
      rw [← he]
  | some ds => rfl

end Edge

namespace Survey

variable {h : Heuristics}

/-- The endpoints of a catalog, controller by controller, each with the collaborators of all
declarations that go by the name of its controller. -/
theorem attachAll_endpointsOf {ds : List Declaration} (wt : ∀ d ∈ ds, d.WellTyped) :
    Edge.attachAll (Edge.all h ds) (endpointsOf h ds)
      = (ofRole h .controller ds).flatMap fun d => (endpoints h d).result.map fun e =>
          { e with dependencies :=
              (ds.filter (·.qualifiedName = d.qualifiedName)).flatMap (·.collaborators h) } := by
  rw [Edge.attachAll, endpointsOf, List.map_flatMap]
  refine List.flatMap_congr fun d hd => List.map_congr_left fun e he => ?_
  have hwt : d.WellTyped := wt d (List.mem_of_mem_filter hd)
  obtain ⟨m, -, mapping, verb, hread⟩ := readFrom_of_mem_endpoints hwt he
  rw [Edge.attach_eq _ hread.dependencies, Edge.getD_dependencies, hread.controller,
    Edge.dependenciesFrom_all]

/--
**Dependencies and components are exactly the injected collaborators.**  The injections among
the edges are the collaborators of the declarations in order.  The endpoints of a catalog are
those that each controller has on its own, with the collaborators of all declarations of its
qualified name; the components are the targets of all injections, each where it was first
seen.
-/
theorem catalog_collaborators (h : Heuristics) (effects : EffectTable) {ds : List Declaration}
    (wt : ∀ d ∈ ds, d.WellTyped) :
    ∃ c notices, catalog h effects ds = .ok (c, notices) ∧
      ((Edge.all h ds).filter (·.kind = .injection)).map (fun e => (e.source, e.dependency))
        = (ds.flatMap fun d => (d.collaborators h).map fun dependency =>
            (d.qualifiedName, dependency)) ∧
      (∃ own : Declaration → List Endpoint,
        (∀ d ∈ ds, d.role h = .controller → ∃ ns, endpoints h d = .ok (own d, ns)) ∧
        c.endpoints = (ds.filter fun d => d.role h = .controller).flatMap fun d =>
          (own d).map fun e =>
            { e with dependencies :=
                (ds.filter (·.qualifiedName = d.qualifiedName)).flatMap (·.collaborators h) }) ∧
      c.components = (((Edge.all h ds).filter (·.kind = .injection)).map (·.target)).eraseDups ∧
      c.components.Nodup ∧
      ∀ e ∈ c.endpoints, ∀ dependency ∈ e.dependencies, dependency.type ∈ c.components := by
  have hcomponents : (catalogOf h effects ds).components
      = (ds.flatMap fun d => (d.collaborators h).map (·.type)).eraseDups := by
    rw [← Edge.injectedTargets_all]
    rfl
  refine ⟨_, _, catalog_ok wt, Edge.sources_dependencies_all ds,
    ⟨fun d => (endpoints h d).result, ?_, ?_⟩, rfl, ?_, ?_⟩
  · intro d hd _
    exact ⟨_, (endpoints_succeeds (wt d hd)).eq_ok⟩
  · exact attachAll_endpointsOf wt
  · exact Catalog.nodup_eraseDups _
  · intro e he dependency hdependency
    rw [hcomponents, List.mem_eraseDups]
    rw [show (catalogOf h effects ds).endpoints = _ from attachAll_endpointsOf wt] at he
    obtain ⟨d, -, hmem⟩ := List.mem_flatMap.mp he
    obtain ⟨e', -, rfl⟩ := List.mem_map.mp hmem
    obtain ⟨o, ho, hcollaborator⟩ := List.mem_flatMap.mp hdependency
    refine List.mem_flatMap.mpr ⟨o, List.mem_of_mem_filter ho, ?_⟩
    exact List.mem_map.mpr ⟨dependency, hcollaborator, rfl⟩

/-- A controller with one operation.  Of its fields one belongs to the type, one has a type that
looks like a service, and one is injected for its mark alone. -/
def usersController : Declaration :=
  let field (name type : String) : Field := ⟨name, .simple type, [], .none, []⟩
  { Declaration.bare "Users" "shop.web" .plainClass with
    marks := [.plain "RestController"]
    fields := [{ field "cache" "CacheService" with modifiers := ["static"] },
      field "users" "UserService", { field "clock" "Clock" with marks := [.plain "Autowired"] },
      field "limit" "int"]
    methods := [⟨"read", .simple "User", [], [.plain "GetMapping"], .none, []⟩] }

/-- The controller, a second declaration of its qualified name, and one of its simple name in
another package, each with collaborators. -/
def namesakes : List Declaration :=
  let field (name type : String) : Field := ⟨name, .simple type, [], .none, []⟩
  [usersController,
    { Declaration.bare "Users" "shop.web" .plainClass with
      constructors := [⟨[⟨"audit", .simple "AuditHandler", []⟩], [], .none⟩] },
    { Declaration.bare "Users" "shop.admin" .plainClass with
      fields := [field "users" "UserService", field "mail" "MailManager"] }]

theorem catalog_collaborators_namesakes :
    (∀ d ∈ namesakes, d.WellTyped) ∧
      ∃ c notices, catalog .standard .standard namesakes = .ok (c, notices) ∧
        (∃ e, c.endpoints = [e] ∧ e.dependencies
          = [⟨"users", "UserService", .field⟩, ⟨"clock", "Clock", .field⟩,
            ⟨"audit", "AuditHandler", .constructor⟩]) ∧
        c.components = ["UserService", "Clock", "AuditHandler", "MailManager"] := by
  have hwt : ∀ d ∈ namesakes, d.WellTyped := by decide
  obtain ⟨c, notices, hc, -, ⟨own, hown, hendpoints⟩, hcomponents, -⟩ :=
    catalog_collaborators .standard .standard hwt
  refine ⟨hwt, c, notices, hc, ?_, hcomponents.trans (by decide)⟩
  have hcontrollers : (namesakes.filter fun d => d.role .standard = .controller)
      = [usersController] := rfl
  obtain ⟨ns, hread⟩ := hown usersController List.mem_cons_self rfl
  obtain ⟨e, ms, hone⟩ : ∃ e ms, endpoints .standard usersController = .ok ([e], ms) :=
    ⟨_, _, rfl⟩
  obtain ⟨hresult, -⟩ := Prod.mk.inj (Except.ok.inj (hread.symm.trans hone))
  rw [hcontrollers, List.flatMap_singleton, hresult, List.map_singleton] at hendpoints
  have hcollaborators : (namesakes.filter (·.qualifiedName = usersController.qualifiedName)).flatMap
      (·.collaborators .standard) = [⟨"users", "UserService", .field⟩, ⟨"clock", "Clock", .field⟩,
        ⟨"audit", "AuditHandler", .constructor⟩] := by
    decide
  exact ⟨_, hendpoints, hcollaborators⟩

end Survey

end ServiceAtlas
