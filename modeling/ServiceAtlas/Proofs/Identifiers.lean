/-
No two boxes of an endpoint map share an identifier.

An identifier that is taken is replaced by the first free one among its numbered forms.  The
forms are distinct, so among one more of them than there are taken identifiers one is free:
the search ends, and it ends within the budget that `freeId` gives it.  Boxes and frames hand
the taken identifiers on, so what holds of one step holds of a whole map.
-/
import Mathlib.Data.List.Nodup
import Mathlib.Data.List.Perm.Subperm
import ServiceAtlas.Report.Map

namespace ServiceAtlas.Report

/-! ### The search for a free identifier -/

theorem numbered_injective (id : String) {n m : Nat} (h : numbered id n = numbered id m) :
    n = m := by
  unfold numbered at h
  have hdigits : Nat.toDigits 10 n = Nat.toDigits 10 m := by
    have hchars := congrArg String.toList h
    simpa using hchars
  rw [← Nat.ofDigitChars_ten_toDigits (n := n), hdigits, Nat.ofDigitChars_ten_toDigits]

theorem firstFree_not_mem {id : String} {taken : List String} :
    ∀ {budget n : Nat}, (∃ k ≤ budget, numbered id (n + k) ∉ taken) →
      firstFree id taken budget n ∉ taken := by
  intro budget
  induction budget with
  | zero =>
      rintro n ⟨k, hk, hfree⟩
      obtain rfl : k = 0 := by omega
      exact hfree
  | succ budget ih =>
      rintro n ⟨k, hk, hfree⟩
      rw [firstFree]
      split
      · rename_i htaken
        -- The form at hand is taken, so the free one lies further on.
        obtain ⟨j, rfl⟩ : ∃ j, k = j + 1 := by
          refine Nat.exists_eq_succ_of_ne_zero ?_
          rintro rfl
          exact hfree (List.contains_iff_mem.mp htaken)
        refine ih ⟨j, by omega, ?_⟩
        rwa [show n + 1 + j = n + (j + 1) by omega]
      · rename_i hfree
        exact fun hmem => hfree (List.contains_iff_mem.mpr hmem)

/-- Among one more numbered forms than there are taken identifiers one is free. -/
theorem exists_numbered_not_mem (id : String) (taken : List String) (n : Nat) :
    ∃ k ≤ taken.length, numbered id (n + k) ∉ taken := by
  by_contra hnone
  simp only [not_exists, not_and, not_not] at hnone
  let forms := (List.range (taken.length + 1)).map fun k => numbered id (n + k)
  have hnodup : forms.Nodup := by
    refine List.Nodup.map (fun i j hij => ?_) List.nodup_range
    have hsum := numbered_injective id hij
    omega
  have hsubset : forms ⊆ taken := by
    intro form hform
    obtain ⟨k, hk, rfl⟩ := List.mem_map.mp hform
    exact hnone k (by have := List.mem_range.mp hk; omega)
  have hlength := (List.subperm_of_subset hnodup hsubset).length_le
  simp only [forms, List.length_map, List.length_range] at hlength
  omega

/-- **The search for a free identifier ends with one.** -/
theorem freeId_not_mem (id : String) (taken : List String) : freeId id taken ∉ taken := by
  unfold freeId
  split
  · exact firstFree_not_mem (exists_numbered_not_mem id taken 2)
  · rename_i hfree
    exact fun hmem => hfree (List.contains_iff_mem.mpr hmem)

/-! ### Boxes and frames -/

/-- The identifiers of boxes, those given last in front. -/
def boxIds (bs : List Box) : List String :=
  (bs.map Box.id).reverse

/-- Boxes take identifiers that are free and hand them on. -/
theorem boxes_taken :
    ∀ (es : List Endpoint) {taken : List String}, taken.Nodup →
      (boxes taken es).2 = boxIds (boxes taken es).1 ++ taken ∧ (boxes taken es).2.Nodup := by
  intro es
  induction es with
  | nil => intro taken htaken; exact ⟨rfl, htaken⟩
  | cons e rest ih =>
      intro taken htaken
      have hnodup : (freeId (boxId e) taken :: taken).Nodup :=
        List.nodup_cons.mpr ⟨freeId_not_mem _ _, htaken⟩
      obtain ⟨heq, hrest⟩ := ih hnodup
      refine ⟨?_, hrest⟩
      show (boxes (freeId (boxId e) taken :: taken) rest).2 = _
      rw [heq]
      simp [boxes, boxIds]

/-- The identifiers in frames, in order. -/
def frameIds (fs : List Frame) : List String :=
  fs.flatMap fun f => f.boxes.map Box.id

theorem frameIds_fresh (es : List Endpoint) :
    ∀ (groups : List String) {taken : List String}, taken.Nodup →
      (frameIds (frames es taken groups)).Nodup ∧
        ∀ id ∈ frameIds (frames es taken groups), id ∉ taken := by
  intro groups
  induction groups with
  | nil => intro taken _; exact ⟨List.nodup_nil, nofun⟩
  | cons group rest ih =>
      intro taken htaken
      obtain ⟨heq, hnodup⟩ := boxes_taken (members es group) htaken
      obtain ⟨hrest, hfresh⟩ := ih hnodup
      have hids : frameIds (frames es taken (group :: rest))
          = (boxes taken (members es group)).1.map Box.id
            ++ frameIds (frames es (boxes taken (members es group)).2 rest) := rfl
      rw [heq, List.nodup_append] at hnodup
      obtain ⟨hfirst, -, hapart⟩ := hnodup
      rw [boxIds, List.nodup_reverse] at hfirst
      rw [hids]
      constructor
      · refine List.nodup_append.mpr ⟨hfirst, hrest, fun a ha b hb hab => ?_⟩
        refine hfresh b hb ?_
        rw [heq, ← hab]
        exact List.mem_append_left _ (List.mem_reverse.mpr ha)
      · intro id hid hmem
        rcases List.mem_append.mp hid with hbox | hframe
        · exact hapart id (List.mem_reverse.mpr hbox) id hmem rfl
        · refine hfresh id hframe ?_
          rw [heq]
          exact List.mem_append_right _ hmem

/-- The identifiers of the boxes of a map, frame by frame. -/
def mapIds (es : List Endpoint) : List String :=
  frameIds (frames es [] (groupNames es))

theorem mapIds_nodup (es : List Endpoint) : (mapIds es).Nodup :=
  (frameIds_fresh es (groupNames es) List.nodup_nil).1

end ServiceAtlas.Report
