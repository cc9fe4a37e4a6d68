/-
Attaching collaborators to endpoints loses none and touches nothing else.

Grouping is a fold over all edges that passes over those that inject nothing.  What an edge does to
the keys and what it does to one group are separate facts about one step: a source becomes a key
where it is first seen, and its group grows at the end.  So after all edges the groups are cut out
of the injections source by source, every injection stands in one of them, and nothing depends on
how injections of different sources are interleaved.

An endpoint is looked up by the qualified name of its controller, which attaching does not change.
That is why attaching once more finds the same group and why it changes nothing.
-/
import ServiceAtlas.Proofs.Collaborators
import ServiceAtlas.Proofs.Drawing

namespace ServiceAtlas

namespace Edge

/-- The injections among edges. -/
def injecting (edges : List Edge) : List Edge :=
  edges.filter fun e => e.kind = .injection

/-- The injections into one source, in their order. -/
def injectingInto (edges : List Edge) (source : String) : List Edge :=
  edges.filter fun e => e.kind = .injection ∧ e.source = source

/-! ### Groups -/

theorem filter_injecting (edges : List Edge) (source : String) :
    (injecting edges).filter (fun e => e.source = source) = injectingInto edges source := by
  rw [injecting, injectingInto, List.filter_filter]
  refine List.filter_congr fun e _ => ?_
  simp [and_comm]

theorem dependenciesFrom_eq (edges : List Edge) (source : String) :
    dependenciesFrom edges source = (injectingInto edges source).map dependency := by
  rw [← filter_injecting]
  rfl

theorem injectingInto_eq_nil_iff {edges : List Edge} {source : String} :
    injectingInto edges source = [] ↔ source ∉ (injecting edges).map (·.source) := by
  simp [injectingInto, injecting]

/-- Edges that inject nothing are passed over. -/
theorem dependencies_eq_foldl (edges : List Edge) :
    dependencies edges = (injecting edges).foldl (fun groups e =>
      groups.insert e.source ((groups.get? e.source).getD [] ++ [e.dependency])) ∅ := by
  rw [injecting, List.foldl_filter]
  simp only [decide_eq_true_eq]
  rfl

theorem keys_dependencies (edges : List Edge) :
    (dependencies edges).keys = ((injecting edges).map (·.source)).eraseDups := by
  have hstep (groups : OrderedMap String (List Dependency)) (e : Edge) :=
    OrderedMap.keys_insert groups e.source ((groups.get? e.source).getD [] ++ [e.dependency])
  rw [dependencies_eq_foldl]
  exact OrderedMap.foldl_firstSeen hstep (injecting edges) ∅ [] rfl

theorem mem_keys_dependencies {edges : List Edge} {source : String} :
    source ∈ (dependencies edges).keys ↔ source ∈ (injecting edges).map (·.source) := by
  rw [keys_dependencies, List.mem_eraseDups]

/-- A source that is injected into has a group, and no other text has one. -/
theorem get?_dependencies (edges : List Edge) (source : String) :
    (dependencies edges).get? source
      = if source ∈ (injecting edges).map (·.source) then
          some ((injectingInto edges source).map dependency)
        else none := by
  have hgroup := getD_dependencies edges source
  rw [dependenciesFrom_eq] at hgroup
  split
  · rename_i hsource
    obtain ⟨ds, hds⟩ := OrderedMap.mem_keys_iff.mp (mem_keys_dependencies.mpr hsource)
    rw [hds] at hgroup ⊢
    exact congrArg some hgroup
  · rename_i hsource
    exact OrderedMap.get?_eq_none_iff.mpr fun hkey => hsource (mem_keys_dependencies.mp hkey)

/-- The groups that collaborators are attached from. -/
structure GroupedBySource (edges : List Edge) (groups : OrderedMap String (List Dependency)) :
    Prop where
  /-- The sources of injections are the keys, each where it is first seen. -/
  keys : groups.keys = ((injecting edges).map (·.source)).eraseDups
  /-- A group holds what the injections of its source say, in their order. -/
  group : ∀ source ∈ groups.keys, groups.get? source
    = some ((injectingInto edges source).map fun e =>
        ⟨e.name.getD "", e.target, e.injection.getD .field⟩)
  /-- Together the groups hold every injection once. -/
  partition : (groups.keys.flatMap (injectingInto edges)).Perm (injecting edges)

theorem groupedBySource_dependencies (edges : List Edge) :
    GroupedBySource edges (dependencies edges) where
  keys := keys_dependencies edges
  group source hsource := by
    rw [get?_dependencies, if_pos (mem_keys_dependencies.mp hsource)]
    rfl
  partition := by
    have hcut := Report.perm_flatMap_filter (·.source) (dependencies edges).nodup
      fun e (he : e ∈ injecting edges) => mem_keys_dependencies.mpr (List.mem_map_of_mem he)
    simp only [filter_injecting] at hcut
    exact hcut

/-! ### Endpoints -/

/-- The second endpoint is the first with the collaborators that edges give its controller. -/
structure Attached (edges : List Edge) (e e' : Endpoint) : Prop where
  /-- All but the dependencies stays. -/
  frame : { e' with dependencies := e.dependencies } = e
  /-- What is injected into the controller takes the place of all that was there. -/
  injected : e.controller ∈ (injecting edges).map (·.source) →
    e'.dependencies = (injectingInto edges e.controller).map fun e =>
      ⟨e.name.getD "", e.target, e.injection.getD .field⟩
  /-- Where nothing is injected, all stays. -/
  untouched : e.controller ∉ (injecting edges).map (·.source) → e' = e

theorem controller_attach (groups : OrderedMap String (List Dependency)) (e : Endpoint) :
    (attach groups e).controller = e.controller := by
  unfold attach
  split <;> rfl

theorem attach_attach (groups : OrderedMap String (List Dependency)) (e : Endpoint) :
    attach groups (attach groups e) = attach groups e := by
  rw [attach, controller_attach]
  unfold attach
  cases groups.get? e.controller <;> rfl

theorem attached_attach (edges : List Edge) (e : Endpoint) :
    Attached edges e (attach (dependencies edges) e) := by
  by_cases hsource : e.controller ∈ (injecting edges).map (·.source)
  · have hattach : attach (dependencies edges) e
        = { e with dependencies := (injectingInto edges e.controller).map dependency } := by
      rw [attach, get?_dependencies, if_pos hsource]
    rw [hattach]
    exact ⟨rfl, fun _ => rfl, fun hnone => absurd hsource hnone⟩
  · have hattach : attach (dependencies edges) e = e := by
      rw [attach, get?_dependencies, if_neg hsource]
    rw [hattach]
    exact ⟨rfl, fun hsome => absurd hsome hsource, fun _ => rfl⟩

/-- Which text has a group, and which, is seen from the injections of each source. -/
theorem get?_dependencies_congr {edges edges' : List Edge}
    (horder : ∀ source, injectingInto edges' source = injectingInto edges source)
    (source : String) : (dependencies edges').get? source = (dependencies edges).get? source := by
  have hsources : source ∈ (injecting edges').map (·.source)
      ↔ source ∈ (injecting edges).map (·.source) := by
    rw [← not_iff_not, ← injectingInto_eq_nil_iff, ← injectingInto_eq_nil_iff, horder]
  rw [get?_dependencies, get?_dependencies, horder]
  exact if_congr hsources rfl rfl

/--
**Attaching loses no injection, changes nothing else and can be repeated.**  The groups are cut out
of the injections, whatever other edges stand between them.  Every endpoint keeps all but its
dependencies, and these are what is injected into its controller wherever something is, and else
what they were.  Edges that keep the injections of each source in order give the same endpoints.
-/
theorem attachAll_lossless (edges : List Edge) :
    GroupedBySource edges (dependencies edges) ∧ ∀ es : List Endpoint,
      List.Forall₂ (Attached edges) es (attachAll edges es) ∧
      attachAll edges (attachAll edges es) = attachAll edges es ∧
      ∀ edges', (∀ source, injectingInto edges' source = injectingInto edges source) →
        attachAll edges' es = attachAll edges es := by
  refine ⟨groupedBySource_dependencies edges, fun es => ⟨?_, ?_, fun edges' horder => ?_⟩⟩
  · rw [attachAll, List.forall₂_map_right_iff, List.forall₂_same]
    exact fun e _ => attached_attach edges e
  · rw [attachAll, attachAll, List.map_map]
    exact List.map_congr_left fun e _ => attach_attach _ e
  · refine List.map_congr_left fun e _ => ?_
    rw [attach, attach, get?_dependencies_congr horder]

/-- Two sources that take turns, with an edge of another kind between them.  The first injection
says neither what it is called nor where it happens. -/
def wiring : List Edge :=
  [⟨"Users", "UserService", .injection, none, none, none, none⟩,
    ⟨"shop.Orders", "Clock", .injection, some "clock", some .constructor, some "<init>", none⟩,
    ⟨"Users", "Page", .specialization, none, none, none, none⟩,
    ⟨"Users", "AuditService", .injection, some "audit", some .field, none, none⟩]

/-- The same edges, with those that do not belong to one source moved past each other. -/
def rewired : List Edge :=
  [⟨"Users", "Page", .specialization, none, none, none, none⟩,
    ⟨"shop.Orders", "Clock", .injection, some "clock", some .constructor, some "<init>", none⟩,
    ⟨"Users", "UserService", .injection, none, none, none, none⟩,
    ⟨"Users", "AuditService", .injection, some "audit", some .field, none, none⟩]

/-- Endpoints of three controllers, one of them outside any scope, with dependencies already. -/
def wired : List Endpoint :=
  let ofController (scope name : String) : Endpoint :=
    { (default : Endpoint) with
      controllerScope := scope
      controllerName := name
      dependencies := [⟨"cache", "Cache", .field⟩] }
  [ofController "" "Users", ofController "shop" "Orders", ofController "shop" "Users"]

theorem attachAll_lossless_wiring :
    (∀ source, injectingInto rewired source = injectingInto wiring source) ∧
      (dependencies wiring).keys = ["Users", "shop.Orders"] ∧
      attachAll rewired wired = attachAll wiring wired ∧
      attachAll wiring (attachAll wiring wired) = attachAll wiring wired ∧
      (attachAll wiring wired).map (·.dependencies)
        = [[⟨"", "UserService", .field⟩, ⟨"audit", "AuditService", .field⟩],
          [⟨"clock", "Clock", .constructor⟩], [⟨"cache", "Cache", .field⟩]] := by
  have horder (source : String) : injectingInto rewired source = injectingInto wiring source := by
    by_cases husers : "Users" = source
    · subst husers
      decide
    · simp [injectingInto, rewired, wiring, List.filter_cons, husers]
  obtain ⟨hgrouped, hattached⟩ := attachAll_lossless wiring
  obtain ⟨-, htwice, hreordered⟩ := hattached wired
  exact ⟨horder, hgrouped.keys.trans (by decide), hreordered rewired horder, htwice, by decide⟩

end Edge

end ServiceAtlas
