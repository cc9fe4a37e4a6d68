/-
Tables and maps do not show how records of different groups are interleaved.

Both renderings of endpoints put the groups in order and keep the order of endpoints inside
each, the table by a stable sort and the map by taking the groups one after another.  Moving
endpoints of different groups past each other therefore changes nothing, and that includes
the identifiers in the map, which are given in the order of the frames and not in that of
the endpoints.  Models are sorted by name and behave alike.

A stable sort is described by what it does to each key: the items of a key keep their order
(`filter_mergeSort`), and a sorted list is determined by its items of each key
(`eq_of_sorted`).  The groups themselves come from `groupAmong_congr`.
-/
import ServiceAtlas.Proofs.Grouping
import ServiceAtlas.Proofs.Identifiers

namespace ServiceAtlas.Report

section Sorting

variable {α β κ γ : Type} [DecidableEq κ] [DecidableEq γ]

/-! ### Lists that differ in how keys are interleaved -/

/-- The second list is the first with items of different keys moved past each other: it has
the same items, and those of each key stand in the same order. -/
structure KeepsOrder (key : α → κ) (xs ys : List α) : Prop where
  perm : xs.Perm ys
  order : ∀ k, ys.filter (fun a => key a = k) = xs.filter (fun a => key a = k)

namespace KeepsOrder

variable {key : α → κ} {xs ys : List α}

/-- Neighbours with different keys can be exchanged. -/
theorem swap {a b : α} (rest : List α) (hne : key a ≠ key b) :
    KeepsOrder key (a :: b :: rest) (b :: a :: rest) := by
  refine ⟨.swap b a rest, fun k => ?_⟩
  by_cases ha : key a = k
  · have hb : key b ≠ k := fun hb => hne (ha.trans hb.symm)
    simp [ha, hb]
  · simp [List.filter_cons, ha]

/-- Items that are their own keys have no order among those of a key. -/
theorem of_perm {xs ys : List κ} (hperm : xs.Perm ys) : KeepsOrder id xs ys := by
  refine ⟨hperm, fun k => ?_⟩
  simp only [id, List.filter_eq, hperm.count_eq k]

/-- Fewer items share a key that says more. -/
theorem refine (more : α → γ) (h : KeepsOrder key xs ys) :
    KeepsOrder (fun a => (key a, more a)) xs ys := by
  refine ⟨h.perm, fun (k, m) => ?_⟩
  have hsplit (zs : List α) : zs.filter (fun a => (key a, more a) = (k, m))
      = (zs.filter fun a => key a = k).filter fun a => more a = m := by
    rw [List.filter_filter]
    refine List.filter_congr fun a _ => ?_
    simp [Bool.and_comm]
  rw [hsplit, hsplit, h.order k]

theorem map (f : β → α) {xs ys : List β} (h : KeepsOrder (fun b => key (f b)) xs ys) :
    KeepsOrder key (xs.map f) (ys.map f) := by
  refine ⟨h.perm.map f, fun k => ?_⟩
  rw [List.filter_map, List.filter_map]
  exact congrArg (List.map f) (h.order k)

end KeepsOrder

/-! ### Stable sorting -/

/-- The comparison puts items in order, and ties are exactly the items with equal keys. -/
structure SortsBy (key : α → κ) (le : α → α → Bool) : Prop where
  trans : ∀ a b c, le a b = true → le b c = true → le a c = true
  total : ∀ a b, (le a b || le b a) = true
  tie : ∀ a b, key a = key b ↔ le a b = true ∧ le b a = true

variable {key : α → κ} {le : α → α → Bool}

/-- A sort keeps the items of a key in their order. -/
theorem filter_mergeSort (hsorts : SortsBy key le) (xs : List α) (k : κ) :
    (xs.mergeSort le).filter (fun a => key a = k) = xs.filter fun a => key a = k := by
  have hties : (xs.filter fun a => key a = k).Pairwise fun a b => le a b = true := by
    refine List.pairwise_of_forall_mem_list fun a ha b hb => ?_
    have hak : key a = k := by simpa using (List.mem_filter.mp ha).2
    have hbk : key b = k := by simpa using (List.mem_filter.mp hb).2
    exact ((hsorts.tie a b).mp (hak.trans hbk.symm)).1
  have hsub : (xs.filter fun a => key a = k).Sublist
      ((xs.mergeSort le).filter fun a => key a = k) := by
    have hkept := (List.sublist_mergeSort hsorts.trans hsorts.total hties
      List.filter_sublist).filter fun a => key a = k
    simpa only [List.filter_filter, Bool.and_self] using hkept
  exact (hsub.eq_of_length ((List.mergeSort_perm xs le).filter _).length_eq.symm).symm

/-- **A sorted list is determined by its items of each key.** -/
theorem eq_of_sorted (hsorts : SortsBy key le) :
    ∀ {xs ys : List α}, xs.Pairwise (fun a b => le a b = true) →
      ys.Pairwise (fun a b => le a b = true) →
      (∀ k, xs.filter (fun a => key a = k) = ys.filter fun a => key a = k) → xs = ys := by
  intro xs
  induction xs with
  | nil =>
      intro ys _ _ h
      refine (List.eq_nil_iff_forall_not_mem.mpr fun b hb => ?_).symm
      have hmem : b ∈ ys.filter fun a => key a = key b := List.mem_filter.mpr ⟨hb, by simp⟩
      rw [← h] at hmem
      cases hmem
  | cons a rest ih =>
      intro ys hxs hys h
      have hmem (k : κ) (c : α) : c ∈ a :: rest ∧ key c = k ↔ c ∈ ys ∧ key c = k := by
        have hc := congrArg (c ∈ ·) (h k)
        simpa using hc
      cases ys with
      | nil => exact absurd ((hmem (key a) a).mp ⟨by simp, rfl⟩).1 nofun
      | cons b others =>
          have hrefl (c : α) : le c c = true := ((hsorts.tie c c).mp rfl).1
          -- Each head stands in the other list, behind its head, so the two are tied.
          have hab : le a b = true := by
            rcases List.mem_cons.mp ((hmem (key b) b).mpr ⟨by simp, rfl⟩).1 with rfl | hb
            · exact hrefl b
            · exact (List.pairwise_cons.mp hxs).1 b hb
          have hba : le b a = true := by
            rcases List.mem_cons.mp ((hmem (key a) a).mp ⟨by simp, rfl⟩).1 with rfl | ha
            · exact hrefl a
            · exact (List.pairwise_cons.mp hys).1 a ha
          have hkey : key a = key b := (hsorts.tie a b).mpr ⟨hab, hba⟩
          have hheads := h (key a)
          rw [List.filter_cons_of_pos (by simp), List.filter_cons_of_pos (by simp [hkey])] at hheads
          obtain ⟨rfl, -⟩ := List.cons.inj hheads
          refine congrArg (a :: ·) (ih hxs.of_cons hys.of_cons fun k => ?_)
          have htails := h k
          by_cases hk : key a = k
          · rw [List.filter_cons_of_pos (by simpa using hk),
              List.filter_cons_of_pos (by simpa using hk)] at htails
            exact (List.cons.inj htails).2
          · rwa [List.filter_cons_of_neg (by simpa using hk),
              List.filter_cons_of_neg (by simpa using hk)] at htails

/-- **Sorting forgets how keys are interleaved.** -/
theorem mergeSort_congr (hsorts : SortsBy key le) {xs ys : List α} (h : KeepsOrder key xs ys) :
    ys.mergeSort le = xs.mergeSort le := by
  refine eq_of_sorted hsorts (List.pairwise_mergeSort hsorts.trans hsorts.total ys)
    (List.pairwise_mergeSort hsorts.trans hsorts.total xs) fun k => ?_
  rw [filter_mergeSort hsorts, filter_mergeSort hsorts, h.order]

end Sorting

/-! ### The orders of the renderings -/

theorem sortsBy_text {α : Type} (key : α → String) :
    SortsBy key fun a b => decide (key a ≤ key b) where
  trans a b c := by simpa using String.le_trans
  total a b := by simpa using String.le_total (key a) (key b)
  tie a b := by
    simp only [decide_eq_true_eq]
    constructor
    · intro heq
      rw [heq]
      exact ⟨String.le_refl _, String.le_refl _⟩
    · exact fun ⟨hab, hba⟩ => String.le_antisymm hab hba

theorem atMost_iff {a b : Row} :
    Row.atMost a b = true ↔
      a.group = b.group ∧ a.path ≤ b.path ∨ a.group ≠ b.group ∧ a.group ≤ b.group := by
  unfold Row.atMost
  by_cases hgroup : a.group = b.group <;> simp [hgroup]

/-- Rows are sorted by group and path. -/
theorem sortsBy_atMost : SortsBy (fun r : Row => (r.group, r.path)) Row.atMost where
  trans a b c hab hbc := by
    rw [atMost_iff] at hab hbc ⊢
    rcases hab with ⟨hab, hpath⟩ | ⟨hne, hab⟩
    · rw [hab]
      exact hbc.imp (fun ⟨hbc, hpath'⟩ => ⟨hbc, String.le_trans hpath hpath'⟩) id
    · rcases hbc with ⟨hbc, -⟩ | ⟨-, hbc⟩
      · rw [← hbc]
        exact Or.inr ⟨hne, hab⟩
      · refine Or.inr ⟨fun hac => hne ?_, String.le_trans hab hbc⟩
        exact String.le_antisymm hab (hac ▸ hbc)
  total a b := by
    rw [Bool.or_eq_true, atMost_iff, atMost_iff]
    by_cases hgroup : a.group = b.group
    · exact (String.le_total a.path b.path).imp (fun h => Or.inl ⟨hgroup, h⟩)
        fun h => Or.inl ⟨hgroup.symm, h⟩
    · exact (String.le_total a.group b.group).imp (fun h => Or.inr ⟨hgroup, h⟩)
        fun h => Or.inr ⟨fun hc => hgroup hc.symm, h⟩
  tie a b := by
    rw [atMost_iff, atMost_iff, Prod.mk.injEq]
    constructor
    · rintro ⟨hgroup, hpath⟩
      rw [hgroup, hpath]
      exact ⟨Or.inl ⟨rfl, String.le_refl _⟩, Or.inl ⟨rfl, String.le_refl _⟩⟩
    · rintro ⟨⟨hgroup, hab⟩ | ⟨hne, hab⟩, ⟨hgroup', hba⟩ | ⟨hne', hba⟩⟩
      · exact ⟨hgroup, String.le_antisymm hab hba⟩
      · exact absurd hgroup.symm hne'
      · exact absurd hgroup'.symm hne
      · exact absurd (String.le_antisymm hab hba) hne

/-! ### The renderings -/

variable {es es' : List Endpoint} {ms ms' : List Model}

/-- Endpoints keep their groups when they are moved. -/
theorem groupAmong_of_keepsOrder (hes : KeepsOrder (groupAmong es) es es') :
    groupAmong es' = groupAmong es :=
  groupAmong_congr fun _ => hes.perm.mem_iff.symm

theorem members_of_keepsOrder (hes : KeepsOrder (groupAmong es) es es') (group : String) :
    members es' group = members es group := by
  rw [members_eq_filter, members_eq_filter, groupAmong_of_keepsOrder hes]
  exact hes.order group

theorem groupNames_of_keepsOrder (hes : KeepsOrder (groupAmong es) es es') :
    groupNames es' = groupNames es := by
  have hgroups : KeepsOrder id (groups es) (groups es') := by
    rw [groups_eq_map, groups_eq_map, groupAmong_of_keepsOrder hes]
    exact .of_perm (hes.perm.map _)
  exact congrArg List.eraseReps (mergeSort_congr (sortsBy_text id) hgroups)

theorem endpointRows_of_keepsOrder (hes : KeepsOrder (groupAmong es) es es') :
    endpointRows es' = endpointRows es := by
  have hrows (zs : List Endpoint) : List.zipWith Row.ofEndpoint zs (groups zs)
      = zs.map fun e => Row.ofEndpoint e (groupAmong zs e) := by
    rw [groups_eq_map, List.zipWith_map_right, List.zipWith_self]
  rw [endpointRows, endpointRows, hrows, hrows, groupAmong_of_keepsOrder hes]
  exact mergeSort_congr sortsBy_atMost ((hes.refine (·.path)).map _)

/-- Frames show of the endpoints what is in each group and nothing else. -/
theorem frames_congr (hmembers : ∀ group, members es' group = members es group) :
    ∀ (groups taken : List String), frames es' taken groups = frames es taken groups := by
  intro groups
  induction groups with
  | nil => intro taken; rfl
  | cons group rest ih =>
      intro taken
      simp only [frames, hmembers, ih]

theorem frames_of_keepsOrder (hes : KeepsOrder (groupAmong es) es es') :
    frames es' [] (groupNames es') = frames es [] (groupNames es) := by
  rw [groupNames_of_keepsOrder hes]
  exact frames_congr (members_of_keepsOrder hes) _ _

/--
**Tables and maps do not show how independent records are interleaved.**  Endpoints that are
moved past those of other groups keep their groups, and give the same table and the same map
with the same identifiers in it.  Models that are moved past models of other names give the
same table.
-/
theorem renderings_interleaved (hes : KeepsOrder (groupAmong es) es es')
    (hms : KeepsOrder Model.name ms ms') :
    groups es' = es'.map (groupAmong es) ∧
      endpointTable es' = endpointTable es ∧
      endpointMap es' = endpointMap es ∧ mapIds es' = mapIds es ∧
      modelTable ms' = modelTable ms := by
  refine ⟨?_, ?_, ?_, ?_, ?_⟩
  · rw [groups_eq_map, groupAmong_of_keepsOrder hes]
  · rw [endpointTable, endpointTable, endpointRows_of_keepsOrder hes]
  · rw [endpointMap, endpointMap, frames_of_keepsOrder hes]
  · rw [mapIds, mapIds, frames_of_keepsOrder hes]
  · rw [modelTable, modelTable, sortedModels, sortedModels,
      mergeSort_congr (sortsBy_text Model.name) hms]

/-- A way to read from a path. -/
def stall (path : String) : Endpoint :=
  { (default : Endpoint) with path := path }

/-- Endpoints of two groups; the identifiers of the first and the last meet. -/
def stalls : List Endpoint :=
  [stall "/shop/items/a-b", stall "/shop/carts", stall "/shop/items/a_b"]

/-- The same endpoints with the first two exchanged. -/
def movedStalls : List Endpoint :=
  [stall "/shop/carts", stall "/shop/items/a-b", stall "/shop/items/a_b"]

theorem renderings_interleaved_stalls :
    KeepsOrder (groupAmong stalls) stalls movedStalls ∧
      KeepsOrder Model.name [.plain "Item", .plain "Cart"] [.plain "Cart", .plain "Item"] ∧
      endpointTable movedStalls = endpointTable stalls ∧
      endpointMap movedStalls = endpointMap stalls ∧ mapIds movedStalls = mapIds stalls ∧
      modelTable [.plain "Cart", .plain "Item"] = modelTable [.plain "Item", .plain "Cart"] := by
  have hes : KeepsOrder (groupAmong stalls) stalls movedStalls := .swap _ (by decide)
  have hms : KeepsOrder Model.name [.plain "Item", .plain "Cart"] [.plain "Cart", .plain "Item"] :=
    .swap _ (by decide)
  obtain ⟨-, htable, hmap, hids, hmodels⟩ := renderings_interleaved hes hms
  exact ⟨hes, hms, htable, hmap, hids, hmodels⟩

end ServiceAtlas.Report
