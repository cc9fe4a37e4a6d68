/-
Documents keep the first place and the last record of every key, and report each replacement.

Three maps stand inside one another: paths, the verbs under a path, and beside them schemas with
their properties.  All of them are written one record after another, so each is described by two
lists of the records it was written from: the keys as they are first seen, and for one key the
records that have it, of which the last one is left.  An empty path and the path of the root are
one key, which is why everything here speaks of `pathKey` and never of the path alone.

The log is the third side of the paths.  What an endpoint finds under its route when it is taken
in is what the endpoints in front of it have written there, so a replacement is reported exactly
for the endpoints whose route occurs in front of them (`notices_paths`).
-/
import Mathlib.Data.List.Infix
import ServiceAtlas.Proofs.Repetition

namespace ServiceAtlas.OpenApi

variable (style : DocumentStyle)

/-! ### The operations of a path -/

/-- Under a path the verbs stand in the order in which endpoints of the path first have them. -/
theorem keys_item (es : List Endpoint) (key : String) :
    ((paths style es).1.item key).keys
      = ((es.filter fun e => pathKey e = key).map (·.verb)).eraseDups := by
  have hitem : (paths style es).1.item key = .ofList (Paths.operationsAt style key es) :=
    Paths.item_addAll style key es ∅
  rw [hitem, OrderedMap.keys_ofList, Paths.operationsAt, List.map_map]
  rfl

/-- **The last endpoint of a path and a verb is the one that a document shows.** -/
theorem get?_item (es : List Endpoint) (key : String) (verb : Verb) :
    ((paths style es).1.item key).get? verb
      = ((es.filter fun e => pathKey e = key ∧ e.verb = verb).getLast?).map
          (.ofEndpoint style) := by
  refine (operation?_paths style es key verb).trans ?_
  rw [Paths.written, OrderedMap.get?_ofList_map]
  simp only [Prod.mk.injEq]

/-- A path that is listed has its operations. -/
theorem get?_paths {es : List Endpoint} {key : String} (hkey : key ∈ (paths style es).1.keys) :
    (paths style es).1.get? key = some ((paths style es).1.item key) := by
  obtain ⟨verbs, hverbs⟩ := OrderedMap.mem_keys_iff.mp hkey
  rw [Paths.item, hverbs]
  rfl

/-! ### Reports of replacements -/

/-- Where the operation of an endpoint is written. -/
def route (e : Endpoint) : String × Verb :=
  (pathKey e, e.verb)

/-- The endpoints whose route an endpoint in front of them has, in order. -/
def repeats (es : List Endpoint) : List Endpoint :=
  ((es.zip es.inits).filter fun x => route x.1 ∈ x.2.map route).map Prod.fst

/-- The report that an endpoint replaces another one. -/
def replacing (e : Endpoint) : Notice :=
  .duplicateOperation e.verb (pathKey e) e.controller

namespace Paths

/-- The paths hold the routes of the endpoints that have been taken in, and no others. -/
def Holds (paths : Paths) (before : List Endpoint) : Prop :=
  ∀ key verb, verb ∈ (paths.item key).keys ↔ (key, verb) ∈ before.map route

theorem Holds.add {paths : Paths} {before : List Endpoint} (h : paths.Holds before)
    (e : Endpoint) : (paths.add style e).Holds (before ++ [e]) := by
  intro key verb
  rw [item_add, List.map_append, List.mem_append, ← h key verb, List.map_singleton,
    List.mem_singleton, route, Prod.mk.injEq]
  by_cases hkey : key = pathKey e
  · rw [if_pos hkey, OrderedMap.mem_keys_insert]
    tauto
  · rw [if_neg hkey]
    tauto

/-- An endpoint is reported when its route has been taken in before. -/
theorem Holds.replacement {paths : Paths} {before : List Endpoint} (h : paths.Holds before)
    (e : Endpoint) :
    paths.replacement e = if route e ∈ before.map route then [replacing e] else [] := by
  have hiff : (paths.item (pathKey e)).contains e.verb = true ↔ route e ∈ before.map route :=
    OrderedMap.contains_iff.trans (h _ _)
  unfold Paths.replacement
  simp only [hiff]
  rfl

theorem Holds.notices :
    ∀ (es : List Endpoint) {before : List Endpoint} {paths : Paths}, paths.Holds before →
      (addAll style paths es).2
        = (((es.zip (es.inits.map (before ++ ·))).filter
            fun x => route x.1 ∈ x.2.map route).map fun x => replacing x.1) := by
  intro es
  induction es with
  | nil => intro before paths _; rfl
  | cons e rest ih =>
      intro before paths h
      have hrest := ih (h.add style e)
      have hinits : (e :: rest).inits.map (before ++ ·)
          = before :: rest.inits.map (before ++ [e] ++ ·) := by
        simp [List.map_map, Function.comp_def]
      rw [hinits, List.zip_cons_cons, List.filter_cons]
      show paths.replacement e ++ (addAll style (paths.add style e) rest).2 = _
      rw [hrest, h.replacement]
      by_cases hroute : route e ∈ before.map route <;> simp [hroute]

end Paths

/-- **A replacement is reported for each endpoint whose route occurs in front of it**, once and
in the order of the endpoints. -/
theorem notices_paths (es : List Endpoint) : (paths style es).2 = (repeats es).map replacing := by
  have hnone : Paths.Holds ∅ [] := fun _ _ => ⟨nofun, nofun⟩
  have hnotices := hnone.notices style es
  simp only [List.nil_append, List.map_id'] at hnotices
  rw [repeats, List.map_map]
  exact hnotices

/-! ### The schemas of models -/

theorem keys_modelSchemas (ms : List Model) :
    (modelSchemas ms).keys = (ms.map (·.name)).eraseDups := by
  rw [modelSchemas, OrderedMap.keys_ofList, List.map_map]
  rfl

theorem keys_modelSchema (m : Model) :
    (modelSchema m).keys = (m.properties.map (·.name)).eraseDups := by
  rw [modelSchema, OrderedMap.keys_ofList, List.map_map]
  rfl

end ServiceAtlas.OpenApi
