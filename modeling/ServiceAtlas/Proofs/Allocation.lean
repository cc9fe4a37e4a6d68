/-
How the boxes of a map come by their identifiers.

A box asks for the identifier made from its verb and path, and takes the first of that one and
its numbered forms that no box in front of it has taken.  `Allocated` says this of a whole list of
endpoints, one search after another, without budgets and without frames: it is what the
unbounded search does, and a list of identifiers that satisfies it is the one that the search
comes to.  `allocated_mapIds` says that the identifiers of a map satisfy it, so each of the
searches ends within its budget.

Two facts about allocated identifiers bound them from both sides.  Each is a candidate of its own
endpoint, and the first candidate of every endpoint is among them: if the endpoint itself could
not have it, then another one had taken it.
-/
import Mathlib.Data.List.Forall2
import ServiceAtlas.Proofs.Drawing

namespace ServiceAtlas.Report

/-! ### One search -/

/-- The identifiers that a box tries one after another. -/
def candidate (id : String) : Nat → String
  | 0 => id
  | n + 1 => numbered id (n + 2)

/-- The search has found the first candidate that is not taken. -/
def IsFirstFree (id : String) (taken : List String) (found : String) : Prop :=
  ∃ n, found = candidate id n ∧ found ∉ taken ∧ ∀ m < n, candidate id m ∈ taken

theorem firstFree_eq_numbered (id : String) (taken : List String) :
    ∀ budget n, ∃ k, firstFree id taken budget n = numbered id (n + k) ∧
      ∀ j < k, numbered id (n + j) ∈ taken := by
  intro budget
  induction budget with
  | zero => intro n; exact ⟨0, rfl, nofun⟩
  | succ budget ih =>
      intro n
      rw [firstFree]
      split
      · rename_i htaken
        obtain ⟨k, hfound, hpassed⟩ := ih (n + 1)
        refine ⟨k + 1, by rw [hfound]; congr 1; omega, fun j hj => ?_⟩
        cases j with
        | zero => exact List.contains_iff_mem.mp htaken
        | succ j =>
            rw [show n + (j + 1) = n + 1 + j by omega]
            exact hpassed j (by omega)
      · exact ⟨0, rfl, nofun⟩

/-- **The search for an identifier finds the first candidate that is free.** -/
theorem isFirstFree_freeId (id : String) (taken : List String) :
    IsFirstFree id taken (freeId id taken) := by
  have hfree := freeId_not_mem id taken
  by_cases htaken : id ∈ taken
  · have hsearch : freeId id taken = firstFree id taken taken.length 2 :=
      if_pos (List.contains_iff_mem.mpr htaken)
    obtain ⟨k, hfound, hpassed⟩ := firstFree_eq_numbered id taken taken.length 2
    refine ⟨k + 1, ?_, hfree, fun m hm => ?_⟩
    · rw [hsearch, hfound, Nat.add_comm]
      rfl
    · cases m with
      | zero => exact htaken
      | succ m =>
          have hmem := hpassed m (by omega)
          rwa [Nat.add_comm] at hmem
  · have hown : freeId id taken = id :=
      if_neg fun hc => htaken (List.contains_iff_mem.mp hc)
    exact ⟨0, hown, hfree, nofun⟩

/-! ### One search after another -/

/-- Endpoints are given identifiers in order, each the first candidate of its own that is neither
taken before nor given to an endpoint in front of it. -/
inductive Allocated : List String → List Endpoint → List String → Prop
  | nil {taken : List String} : Allocated taken [] []
  | cons {taken : List String} {e : Endpoint} {es : List Endpoint} {id : String}
      {ids : List String} (hfirst : IsFirstFree (boxId e) taken id)
      (hrest : Allocated (id :: taken) es ids) : Allocated taken (e :: es) (id :: ids)

namespace Allocated

variable {taken : List String} {es es' : List Endpoint} {ids ids' : List String}

/-- Allocations are continued with all identifiers taken that have been given. -/
theorem append (h : Allocated taken es ids) (h' : Allocated (ids.reverse ++ taken) es' ids') :
    Allocated taken (es ++ es') (ids ++ ids') := by
  induction h with
  | nil => exact h'
  | cons hfirst _ ih =>
      refine .cons hfirst (ih ?_)
      simpa using h'

/-- Every endpoint is given a candidate of its own. -/
theorem candidates (h : Allocated taken es ids) :
    List.Forall₂ (fun e id => ∃ n, id = candidate (boxId e) n) es ids := by
  induction h with
  | nil => exact .nil
  | cons hfirst _ ih =>
      obtain ⟨n, hfound, -⟩ := hfirst
      exact .cons ⟨n, hfound⟩ ih

theorem exists_candidate (h : Allocated taken es ids) :
    ∀ id ∈ ids, ∃ e ∈ es, ∃ n, id = candidate (boxId e) n := by
  induction h with
  | nil => exact nofun
  | @cons taken e es id ids hfirst _ ih =>
      obtain ⟨n, hfound, -⟩ := hfirst
      intro id' hid'
      rcases List.mem_cons.mp hid' with rfl | hrest
      · exact ⟨e, List.mem_cons_self, n, hfound⟩
      · obtain ⟨e', he', hcandidate⟩ := ih id' hrest
        exact ⟨e', List.mem_cons_of_mem _ he', hcandidate⟩

/-- The first candidate of every endpoint is given, to it or to an endpoint in front of it. -/
theorem boxId_mem (h : Allocated taken es ids) :
    ∀ e ∈ es, boxId e ∈ ids ∨ boxId e ∈ taken := by
  induction h with
  | nil => exact nofun
  | @cons taken e es id ids hfirst _ ih =>
      have hown : boxId e ∈ id :: ids ∨ boxId e ∈ taken := by
        obtain ⟨n, hfound, -, hpassed⟩ := hfirst
        cases n with
        | zero => exact Or.inl (hfound ▸ List.mem_cons_self)
        | succ n => exact Or.inr (hpassed 0 (by omega))
      intro e' he'
      rcases List.mem_cons.mp he' with rfl | hrest
      · exact hown
      · rcases ih e' hrest with hgiven | htaken
        · exact Or.inl (List.mem_cons_of_mem _ hgiven)
        · rcases List.mem_cons.mp htaken with heq | htaken
          · exact Or.inl (heq ▸ List.mem_cons_self)
          · exact Or.inr htaken

end Allocated

/-! ### Boxes and frames -/

theorem allocated_boxes :
    ∀ (es : List Endpoint) (taken : List String),
      Allocated taken es ((boxes taken es).1.map Box.id) := by
  intro es
  induction es with
  | nil => intro taken; exact .nil
  | cons e rest ih => intro taken; exact .cons (isFirstFree_freeId _ _) (ih _)

theorem allocated_frames (es : List Endpoint) :
    ∀ (groups : List String) {taken : List String}, taken.Nodup →
      Allocated taken (groups.flatMap (members es)) (frameIds (frames es taken groups)) := by
  intro groups
  induction groups with
  | nil => intro taken _; exact .nil
  | cons group rest ih =>
      intro taken htaken
      obtain ⟨heq, hnodup⟩ := boxes_taken (members es group) htaken
      have hrest := ih hnodup
      rw [heq] at hrest
      have hids : frameIds (frames es taken (group :: rest))
          = (boxes taken (members es group)).1.map Box.id
            ++ frameIds (frames es (boxes taken (members es group)).2 rest) := rfl
      rw [hids, heq, List.flatMap_cons]
      exact (allocated_boxes _ _).append hrest

/-- **The boxes of a map are given their identifiers one after another.** -/
theorem allocated_mapIds (es : List Endpoint) : Allocated [] (drawn es) (mapIds es) :=
  allocated_frames es (groupNames es) List.nodup_nil

/-- What is made from the verb and the path of an endpoint is the identifier of a box, if not of
its own then of another one. -/
theorem boxId_mem_mapIds {es : List Endpoint} {e : Endpoint} (he : e ∈ es) :
    boxId e ∈ mapIds es := by
  have hdrawn : e ∈ drawn es := (drawn_perm es).mem_iff.mpr he
  exact ((allocated_mapIds es).boxId_mem e hdrawn).resolve_right List.not_mem_nil

/-! ### Characters of identifiers -/

/-- The text has characters of identifiers only. -/
def IsIdentifier (text : String) : Prop :=
  ∀ c ∈ text.toList, isIdChar c = true

theorem isIdChar_of_mem_sanitizeFrom {c : Char} :
    ∀ (cs : List Char) (behind : Bool), c ∈ sanitizeFrom behind cs → isIdChar c = true := by
  intro cs
  induction cs with
  | nil => intro behind hc; cases hc
  | cons d rest ih =>
      intro behind hc
      rw [sanitizeFrom] at hc
      split at hc
      · rename_i hd
        rcases List.mem_cons.mp hc with rfl | hrest
        · exact (Bool.and_eq_true_iff.mp hd).1
        · exact ih false hrest
      · split at hc
        · exact ih true hc
        · rcases List.mem_cons.mp hc with rfl | hrest
          · rfl
          · exact ih true hrest

theorem isIdentifier_sanitize (text : String) : IsIdentifier (sanitize text) := by
  intro c hc
  rw [sanitize, String.toList_ofList] at hc
  exact isIdChar_of_mem_sanitizeFrom _ _ hc

theorem isIdentifier_numbered {id : String} (hid : IsIdentifier id) (n : Nat) :
    IsIdentifier (numbered id n) := by
  intro c hc
  simp only [numbered, String.toList_append, String.toList_ofList, List.mem_append] at hc
  rcases hc with (hid' | hbar) | hdigit
  · exact hid c hid'
  · rw [List.mem_singleton.mp hbar]
    rfl
  · have hdigit := Nat.isDigit_of_mem_toDigits (by decide) (by decide) hdigit
    have hascii : Text.isAsciiDigit c = true := by
      simpa [Text.isAsciiDigit, Char.isDigit, Char.le_def] using hdigit
    simp [isIdChar, hascii]

theorem isIdentifier_candidate (e : Endpoint) (n : Nat) : IsIdentifier (candidate (boxId e) n) := by
  cases n with
  | zero => exact isIdentifier_sanitize _
  | succ n => exact isIdentifier_numbered (isIdentifier_sanitize _) _

theorem isIdentifier_of_mem_mapIds {es : List Endpoint} {id : String} (hid : id ∈ mapIds es) :
    IsIdentifier id := by
  obtain ⟨e, -, n, rfl⟩ := (allocated_mapIds es).exists_candidate id hid
  exact isIdentifier_candidate e n

end ServiceAtlas.Report
