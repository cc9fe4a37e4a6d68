/-
A map draws every endpoint once.

The frames of a map are its groups in ascending order, each once: sorting brings equal groups
together, and of equal neighbours one is left.  A frame holds the endpoints of its group, so the
frames together hold each endpoint as often as it occurs, and `drawn` is the order in which they
do.
-/
import ServiceAtlas.Proofs.Interleaving

namespace ServiceAtlas.Report

/-! ### Equal neighbours -/

section Repetitions

variable {α : Type} [DecidableEq α]

theorem eraseReps_cons_cons (a b : α) (xs : List α) :
    (a :: b :: xs).eraseReps
      = if a = b then (b :: xs).eraseReps else a :: (b :: xs).eraseReps := by
  have hloop : ∀ (ys : List α) (c : α) (acc : List α),
      List.eraseRepsBy.loop (· == ·) c ys acc
        = acc.reverse ++ List.eraseRepsBy.loop (· == ·) c ys [] := by
    intro ys
    induction ys with
    | nil => intro c acc; simp [List.eraseRepsBy.loop]
    | cons d ys ih =>
        intro c acc
        simp only [List.eraseRepsBy.loop]
        split
        · exact ih c acc
        · rw [ih d (c :: acc), ih d [c]]
          simp
  show List.eraseRepsBy.loop (· == ·) a (b :: xs) [] = _
  by_cases hab : a = b
  · subst hab
    simp [List.eraseRepsBy.loop, List.eraseReps, List.eraseRepsBy]
  · rw [if_neg hab, List.eraseRepsBy.loop, beq_false_of_ne hab]
    exact hloop xs b [a]

theorem mem_eraseReps {c : α} : ∀ {xs : List α}, c ∈ xs.eraseReps ↔ c ∈ xs
  | [] => Iff.rfl
  | [a] => Iff.rfl
  | a :: b :: xs => by
      have hrest : c ∈ (b :: xs).eraseReps ↔ c ∈ b :: xs := mem_eraseReps
      rw [eraseReps_cons_cons]
      split
      · rename_i hab
        rw [hrest, hab]
        simp
      · rw [List.mem_cons, hrest, ← List.mem_cons]

/-- In a sorted list equal items are neighbours, so none of them is left twice. -/
theorem nodup_eraseReps {r : α → α → Prop} (hantisymm : ∀ a b, r a b → r b a → a = b) :
    ∀ {xs : List α}, xs.Pairwise r → xs.eraseReps.Nodup
  | [], _ => List.nodup_nil
  | [a], _ => List.nodup_singleton a
  | a :: b :: xs, h => by
      have hrest := nodup_eraseReps hantisymm h.of_cons
      rw [eraseReps_cons_cons]
      split
      · exact hrest
      · rename_i hab
        refine List.nodup_cons.mpr ⟨fun hmem => ?_, hrest⟩
        rcases List.mem_cons.mp (mem_eraseReps.mp hmem) with heq | hxs
        · exact hab heq
        · have hle : r a b := (List.pairwise_cons.mp h).1 b List.mem_cons_self
          have hge : r b a := (List.pairwise_cons.mp h.of_cons).1 a hxs
          exact hab (hantisymm a b hle hge)

end Repetitions

/-- The items of a list by their keys, each key taken once, are the items of the list. -/
theorem perm_flatMap_filter {α κ : Type} [DecidableEq κ] (key : α → κ) :
    ∀ {keys : List κ} {xs : List α}, keys.Nodup → (∀ a ∈ xs, key a ∈ keys) →
      (keys.flatMap fun k => xs.filter fun a => key a = k).Perm xs := by
  intro keys
  induction keys with
  | nil =>
      intro xs _ hkeys
      cases xs with
      | nil => exact .nil
      | cons a xs => exact absurd (hkeys a List.mem_cons_self) nofun
  | cons k keys ih =>
      intro xs hnodup hkeys
      obtain ⟨hnew, hnodup⟩ := List.nodup_cons.mp hnodup
      -- The other keys do not see the items of the first one.
      have hothers : (keys.flatMap fun k' => xs.filter fun a => key a = k')
          = keys.flatMap fun k' => (xs.filter fun a => !decide (key a = k)).filter
              fun a => key a = k' := by
        refine List.flatMap_congr fun k' hk' => ?_
        rw [List.filter_filter]
        refine List.filter_congr fun a _ => ?_
        by_cases ha : key a = k'
        · have hne : key a ≠ k := fun hk => hnew (hk ▸ ha ▸ hk')
          simp [ha, ha ▸ hne]
        · simp [ha]
      have hrest := @ih (xs.filter fun a => !decide (key a = k)) hnodup fun a ha => by
        obtain ⟨hmem, hne⟩ := List.mem_filter.mp ha
        rcases List.mem_cons.mp (hkeys a hmem) with hk | hk
        · simp [hk] at hne
        · exact hk
      rw [List.flatMap_cons, hothers]
      exact (hrest.append_left _).trans (List.filter_append_perm _ xs)

/-! ### The frames and what they hold -/

theorem mem_groupNames {es : List Endpoint} {group : String} :
    group ∈ groupNames es ↔ group ∈ groups es := by
  rw [groupNames, mem_eraseReps]
  exact (List.mergeSort_perm _ _).mem_iff

theorem nodup_groupNames (es : List Endpoint) : (groupNames es).Nodup := by
  have hsorts := sortsBy_text (id : String → String)
  refine nodup_eraseReps (r := fun a b => decide (a ≤ b) = true) (fun a b hab hba => ?_)
    (List.pairwise_mergeSort hsorts.trans hsorts.total (groups es))
  exact String.le_antisymm (of_decide_eq_true hab) (of_decide_eq_true hba)

/-- Groups that come in ascending order stay in it. -/
theorem groupNames_of_ascending {es : List Endpoint} (h : (groups es).Pairwise (· ≤ ·)) :
    groupNames es = (groups es).eraseReps := by
  rw [groupNames, List.mergeSort_of_pairwise]
  simpa using h

/-- The endpoints in the order in which a map draws them, group after group. -/
def drawn (es : List Endpoint) : List Endpoint :=
  (groupNames es).flatMap (members es)

/-- **A map draws every endpoint once.** -/
theorem drawn_perm (es : List Endpoint) : (drawn es).Perm es := by
  have hmembers : drawn es
      = (groupNames es).flatMap fun group => es.filter fun e => groupAmong es e = group :=
    List.flatMap_congr fun group _ => members_eq_filter es group
  rw [hmembers]
  refine perm_flatMap_filter (groupAmong es) (nodup_groupNames es) fun e he => ?_
  rw [mem_groupNames, groups_eq_map]
  exact List.mem_map_of_mem he

end ServiceAtlas.Report
