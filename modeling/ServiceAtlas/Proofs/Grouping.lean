/-
Groups are named by what stands behind the greatest common prefix of all paths.

Without a tag the group of an endpoint depends on all endpoints, but on nothing of them except
the segments that all paths begin with.  These are the greatest common prefix: a list begins
them exactly when it begins every path (`prefix_sharedSegments_iff`), and such a list is
determined by which paths there are.  So an endpoint has its group among endpoints whatever
order they come in, and `groupAmong` is that group.

Every path is then the shared segments with something behind them, or with nothing.  `IsGroup`
has a case for each and one for a tag.  No case names a group by an empty text: an empty tag
counts for none, a path is not cut into empty segments, and no character disappears when it is
capitalized.
-/
import Mathlib.Data.List.Forall2
import Mathlib.Data.List.Infix
import ServiceAtlas.Report.Map

namespace ServiceAtlas

/-! ### Texts that are not empty -/

namespace Text

theorem upperChar_ne_nil (c : Char) : upperChar c ≠ [] := by
  have hexpansions : ∀ e ∈ upperExpansions, e.2 ≠ [] := by decide
  unfold upperChar
  split
  · simp
  · split
    · rename_i ns hns
      obtain ⟨before, behind, htable, -⟩ := List.lookup_eq_some_iff.mp hns
      have hmem : (c.toNat, ns) ∈ upperExpansions := by simp [htable]
      simpa using hexpansions _ hmem
    · simp

theorem capitalized_ne_empty {s : String} (hs : s ≠ "") : capitalized s ≠ "" := by
  obtain ⟨c, cs, hcs⟩ := List.exists_cons_of_ne_nil (show s.toList ≠ [] by simpa using hs)
  have hcapital : capitalized s = String.ofList (upperChar c ++ cs) := by
    rw [capitalized, hcs]
  rw [hcapital]
  simp [upperChar_ne_nil]

end Text

namespace Path

theorem ne_empty_of_mem_segments {path segment : String} (hsegment : segment ∈ segments path) :
    segment ≠ "" := by
  obtain ⟨piece, hpiece, rfl⟩ := List.mem_map.mp hsegment
  have hne : piece ≠ [] := by simpa using (List.mem_filter.mp hpiece).2
  simpa using hne

/-! ### The segments that all paths begin with -/

/-- A list begins all paths, and every list that begins all paths begins it. -/
structure IsGreatestStart (paths : List (List String)) (start : List String) : Prop where
  begins : ∀ p ∈ paths, start <+: p
  greatest : ∀ q : List String, (∀ p ∈ paths, q <+: p) → q <+: start

namespace IsGreatestStart

variable {paths paths' : List (List String)} {start start' : List String}

theorem unique (h : IsGreatestStart paths start) (h' : IsGreatestStart paths start') :
    start = start' := by
  have hle := h'.greatest start h.begins
  have hge := h.greatest start' h'.begins
  exact hle.eq_of_length_le hge.length_le

/-- Only which paths there are counts. -/
theorem congr (hsame : ∀ p, p ∈ paths' ↔ p ∈ paths) (h : IsGreatestStart paths start) :
    IsGreatestStart paths' start where
  begins p hp := h.begins p ((hsame p).mp hp)
  greatest q hq := h.greatest q fun p hp => hq p ((hsame p).mpr hp)

end IsGreatestStart

theorem prefix_commonStart_iff :
    ∀ {q as bs : List String}, q <+: commonStart as bs ↔ q <+: as ∧ q <+: bs := by
  intro q
  induction q with
  | nil => simp
  | cons c q ih =>
      intro as bs
      cases as with
      | nil => simp [commonStart]
      | cons a as =>
          cases bs with
          | nil => simp [commonStart]
          | cons b bs =>
              by_cases hab : a = b
              · subst hab
                rw [commonStart, if_pos rfl]
                simp only [List.cons_prefix_cons, ih]
                tauto
              · rw [commonStart, if_neg hab]
                simp only [List.cons_prefix_cons, List.prefix_nil]
                constructor
                · nofun
                · rintro ⟨⟨rfl, -⟩, rfl, -⟩
                  exact absurd rfl hab

theorem prefix_foldl_commonStart_iff {q : List String} :
    ∀ {paths : List (List String)} {path : List String},
      q <+: paths.foldl commonStart path ↔ q <+: path ∧ ∀ p ∈ paths, q <+: p := by
  intro paths
  induction paths with
  | nil => simp
  | cons p rest ih =>
      intro path
      rw [List.foldl_cons, ih, prefix_commonStart_iff, List.forall_mem_cons, and_assoc]

/-- **The shared segments are the greatest common prefix.** -/
theorem prefix_sharedSegments_iff {q : List String} {paths : List (List String)}
    (hsome : paths ≠ []) : q <+: sharedSegments paths ↔ ∀ p ∈ paths, q <+: p := by
  cases paths with
  | nil => exact absurd rfl hsome
  | cons path rest =>
      rw [sharedSegments, prefix_foldl_commonStart_iff, List.forall_mem_cons]

theorem isGreatestStart_sharedSegments {paths : List (List String)} (hsome : paths ≠ []) :
    IsGreatestStart paths (sharedSegments paths) where
  begins := (prefix_sharedSegments_iff hsome).mp List.prefix_rfl
  greatest _ hq := (prefix_sharedSegments_iff hsome).mpr hq

theorem sharedSegments_prefix {paths : List (List String)} {p : List String} (hp : p ∈ paths) :
    sharedSegments paths <+: p :=
  (isGreatestStart_sharedSegments (List.ne_nil_of_mem hp)).begins p hp

/-- The shared segments depend only on which paths there are. -/
theorem sharedSegments_congr {paths paths' : List (List String)}
    (hsame : ∀ p, p ∈ paths ↔ p ∈ paths') : sharedSegments paths = sharedSegments paths' := by
  by_cases hnone : paths = []
  · subst hnone
    have hnone' : paths' = [] := List.eq_nil_iff_forall_not_mem.mpr fun p hp => by
      simpa using (hsame p).mpr hp
    rw [hnone']
  · have hsome' : paths' ≠ [] := by
      obtain ⟨p, hp⟩ := List.exists_mem_of_ne_nil paths hnone
      exact List.ne_nil_of_mem ((hsame p).mp hp)
    have hgreatest' := isGreatestStart_sharedSegments hsome'
    exact (isGreatestStart_sharedSegments hnone).unique (hgreatest'.congr hsame)

end Path

namespace Report

/-! ### The group of an endpoint -/

/-- The group that an endpoint has among endpoints. -/
def groupAmong (es : List Endpoint) (e : Endpoint) : String :=
  groupOf (Path.sharedSegments (es.map fun e => Path.segments e.path)).length e.tags
    (Path.segments e.path)

theorem groups_eq_map (es : List Endpoint) : groups es = es.map (groupAmong es) :=
  rfl

theorem groupOf_of_tag {tags : List String} (htag : tags.headD "" ≠ "") (shared : Nat)
    (segments : List String) : groupOf shared tags segments = tags.headD "" := by
  have hsome : (tags.headD "").isEmpty = false := by simpa using htag
  simp only [groupOf, hsome]
  rfl

theorem groupAmong_of_tag (es : List Endpoint) {e : Endpoint} (htag : e.tags.headD "" ≠ "") :
    groupAmong es e = e.tags.headD "" :=
  groupOf_of_tag htag _ _

theorem groupOf_of_untagged {tags : List String} (huntagged : tags.headD "" = "")
    (shared rest : List String) : groupOf shared.length tags (shared ++ rest)
      = rest.head?.elim defaultGroup Text.capitalized := by
  simp only [groupOf, huntagged, List.drop_left]
  cases rest <;> rfl

/-- Groups depend only on which endpoints there are. -/
theorem groupAmong_congr {es es' : List Endpoint} (hsame : ∀ e, e ∈ es ↔ e ∈ es') :
    groupAmong es = groupAmong es' := by
  have hpaths : ∀ p, p ∈ es.map (fun e => Path.segments e.path)
      ↔ p ∈ es'.map (fun e => Path.segments e.path) := by
    intro p
    simp only [List.mem_map, hsame]
  unfold groupAmong
  rw [Path.sharedSegments_congr hpaths]

theorem members_eq_filter (es : List Endpoint) (group : String) :
    members es group = es.filter fun e => groupAmong es e = group := by
  have hzip : es.zip (groups es) = es.map fun e => (e, groupAmong es e) := by
    rw [groups_eq_map, List.zip_eq_zipWith, List.zipWith_map_right, List.zipWith_self]
  rw [members, hzip, List.filter_map, List.map_map]
  exact List.map_id _

/-! ### Names of groups -/

/-- The name that an endpoint gives to its group, among endpoints whose paths all begin with the
shared segments. -/
inductive IsGroup (shared : List String) (e : Endpoint) : String → Prop
  /-- The first tag, unless it is empty. -/
  | tag (htag : e.tags.headD "" ≠ "") : IsGroup shared e (e.tags.headD "")
  /-- Without a tag, the segment behind the shared ones. -/
  | segment (huntagged : e.tags.headD "" = "") {s : String} {rest : List String}
      (hpath : Path.segments e.path = shared ++ s :: rest) : IsGroup shared e (Text.capitalized s)
  /-- Without either, the name for what nothing tells apart. -/
  | default (huntagged : e.tags.headD "" = "") (hpath : Path.segments e.path = shared) :
      IsGroup shared e defaultGroup

namespace IsGroup

variable {shared : List String} {e : Endpoint} {name : String}

theorem ne_empty (h : IsGroup shared e name) : name ≠ "" := by
  cases h with
  | tag htag => exact htag
  | @segment _ s rest hpath =>
      have hmem : s ∈ Path.segments e.path := by simp [hpath]
      exact Text.capitalized_ne_empty (Path.ne_empty_of_mem_segments hmem)
  | default => decide

theorem eq_capitalized (h : IsGroup shared e name) (huntagged : e.tags.headD "" = "") {s : String}
    (hnext : (Path.segments e.path)[shared.length]? = some s) : name = Text.capitalized s := by
  cases h with
  | tag htag => exact absurd huntagged htag
  | segment _ hpath =>
      rw [hpath, List.getElem?_append_right (Nat.le_refl _), Nat.sub_self] at hnext
      exact congrArg Text.capitalized (Option.some.inj hnext)
  | default _ hpath =>
      rw [hpath, List.getElem?_eq_none (Nat.le_refl _)] at hnext
      cases hnext

end IsGroup

theorem isGroup_groupOf {shared : List String} {e : Endpoint}
    (hbegins : shared <+: Path.segments e.path) :
    IsGroup shared e (groupOf shared.length e.tags (Path.segments e.path)) := by
  by_cases htag : e.tags.headD "" = ""
  · -- Dropping as many segments as are shared drops the shared ones.
    obtain ⟨rest, hrest⟩ := hbegins
    rw [← hrest, groupOf_of_untagged htag]
    cases rest with
    | nil => exact .default htag (hrest.symm.trans (List.append_nil _))
    | cons s rest => exact .segment htag hrest.symm
  · rw [groupOf_of_tag htag]
    exact .tag htag

theorem isGroup_groupAmong {es : List Endpoint} {e : Endpoint} (he : e ∈ es) :
    IsGroup (Path.sharedSegments (es.map fun e => Path.segments e.path)) e (groupAmong es e) :=
  isGroup_groupOf (Path.sharedSegments_prefix (List.mem_map_of_mem he))

/-- The names of the groups of endpoints whose paths all begin with the shared segments. -/
structure GroupNames (shared : List String) (es : List Endpoint) (names : List String) :
    Prop where
  one_each : names.length = es.length
  named : List.Forall₂ (IsGroup shared) es names
  ne_empty : ∀ name ∈ names, name ≠ ""
  /-- Endpoints without tags are in one group when their paths continue with one segment behind
  the shared ones. -/
  together : ∀ (i j : Nat) (e e' : Endpoint) (s : String), es[i]? = some e → es[j]? = some e' →
    e.tags.headD "" = "" → e'.tags.headD "" = "" →
    (Path.segments e.path)[shared.length]? = some s →
    (Path.segments e'.path)[shared.length]? = some s → names[i]? = names[j]?

theorem groupNames_groups (es : List Endpoint) :
    GroupNames (Path.sharedSegments (es.map fun e => Path.segments e.path)) es (groups es) := by
  constructor
  case one_each => rw [groups_eq_map, List.length_map]
  case named =>
    rw [groups_eq_map, List.forall₂_map_right_iff, List.forall₂_same]
    exact fun e he => isGroup_groupAmong he
  case ne_empty =>
    rw [groups_eq_map, List.forall_mem_map]
    exact fun e he => (isGroup_groupAmong he).ne_empty
  case together =>
    intro i j e e' s hi hj huntagged huntagged' hnext hnext'
    have hname := (isGroup_groupAmong (List.mem_of_getElem? hi)).eq_capitalized huntagged hnext
    have hname' := (isGroup_groupAmong (List.mem_of_getElem? hj)).eq_capitalized huntagged' hnext'
    rw [groups_eq_map, List.getElem?_map, List.getElem?_map, hi, hj]
    exact congrArg some (hname.trans hname'.symm)

/--
**Groups are named by what follows the greatest common prefix.**  If there is a path at all, the
shared segments begin every path, and every list that begins all paths begins them; moving paths
or writing some of them again changes nothing.  Each endpoint names one group, by its first tag or
the segment behind the shared ones or as the default group, and never by an empty text, so
endpoints without tags whose paths go on with the same segment are together.
-/
theorem groups_behind_greatest_start :
    (∀ paths : List (List String), paths ≠ [] →
      Path.IsGreatestStart paths (Path.sharedSegments paths) ∧
      ∀ paths' : List (List String), (∀ p, p ∈ paths' ↔ p ∈ paths) →
        Path.sharedSegments paths' = Path.sharedSegments paths) ∧
    ∀ es : List Endpoint,
      GroupNames (Path.sharedSegments (es.map fun e => Path.segments e.path)) es (groups es) := by
  constructor
  · intro paths hsome
    refine ⟨Path.isGreatestStart_sharedSegments hsome, fun paths' hsame => ?_⟩
    exact Path.sharedSegments_congr hsame
  · exact groupNames_groups

/-- One endpoint with a tag, one with an empty tag in front, and one whose path is no longer than
what all paths begin with. -/
def routes : List Endpoint :=
  let route (path : String) (tags : List String) : Endpoint :=
    { (default : Endpoint) with
      path := path
      tags := tags }
  [route "/api/v1/users/\x7bid\x7d" ["Accounts"], route "/api/v1/orders" [],
    route "/api/v1//orders/\x7bid\x7d" ["", "Late"], route "/api/v1" []]

/-- The segments of the routes. -/
def routePaths : List (List String) :=
  routes.map fun e => Path.segments e.path

theorem groups_behind_greatest_start_routes :
    routePaths ≠ [] ∧ Path.IsGreatestStart routePaths ["api", "v1"] ∧
      (∀ p, p ∈ routePaths.reverse ++ routePaths ↔ p ∈ routePaths) ∧
      Path.sharedSegments (routePaths.reverse ++ routePaths) = ["api", "v1"] ∧
      groups routes = ["Accounts", "Orders", "Orders", "Default"] ∧
      (∀ name ∈ groups routes, name ≠ "") ∧ (groups routes)[1]? = (groups routes)[2]? := by
  have hsome : routePaths ≠ [] := by decide
  have hshared : Path.sharedSegments routePaths = ["api", "v1"] := by decide
  have hsame (p : List String) : p ∈ routePaths.reverse ++ routePaths ↔ p ∈ routePaths := by simp
  obtain ⟨hgreatest, hagain⟩ := groups_behind_greatest_start.1 routePaths hsome
  have hnames := groups_behind_greatest_start.2 routes
  exact ⟨hsome, hshared ▸ hgreatest, hsame, (hagain _ hsame).trans hshared, by decide,
    hnames.ne_empty, hnames.together 1 2 _ _ "orders" rfl rfl rfl rfl (by decide) (by decide)⟩

end Report

end ServiceAtlas
