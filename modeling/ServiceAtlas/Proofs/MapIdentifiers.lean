/-
Identifiers in the text of a map.

A chart draws everything that has one identifier as one thing, so a map shows its endpoints and
groups only if no identifier is written twice.  The identifiers are those that are read back from
the text, with `boxesIn` and `framesIn`.

Boxes and frames differ in this.  The identifiers of boxes come from the search of `Allocated`,
which goes through all frames, so they are distinct in every map (`wellIdentified_boxesIn`).  A
frame is named by its group alone.  Groups that differ only in characters that identifiers
cannot have are drawn as one frame, and a group can have the identifier of a box, its own or that
of another group.  `unambiguous_iff` says which maps escape both.  The second clash is seen from
the groups: the identifier of a box begins with a verb and an underscore, whatever number is put
behind it.
-/
import ServiceAtlas.Proofs.MapReading

namespace ServiceAtlas.Report

/-! ### Boxes -/

/-- The boxes that are drawn for endpoints can be told apart. -/
structure WellIdentified (es : List Endpoint) (bs : List Box) : Prop where
  /-- No two boxes share an identifier, in one frame or in two. -/
  distinct : (bs.map Box.id).Nodup
  characters : ∀ b ∈ bs, IsIdentifier b.id
  /-- Every endpoint has one box, which shows it. -/
  once : (drawn es).Perm es
  labels : bs.map Box.label = (drawn es).map label
  /-- The identifier is made from verb and path, with a number behind it if need be. -/
  forms : List.Forall₂ (fun e b => b.id = boxId e ∨ ∃ n ≥ 2, b.id = numbered (boxId e) n)
    (drawn es) bs
  /-- Every search ends, at the first form that is free. -/
  searches : Allocated [] (drawn es) (bs.map Box.id)

/-- **The boxes that are read off a map are told apart by their identifiers.** -/
theorem wellIdentified_boxesIn {es : List Endpoint} (h : ∀ e ∈ es, IsOneLine e) :
    WellIdentified es (boxesIn (endpointMap es)) := by
  obtain ⟨hids, hlabels⟩ := boxesIn_endpointMap h
  have hsearches : Allocated [] (drawn es) ((boxesIn (endpointMap es)).map Box.id) :=
    hids ▸ allocated_mapIds es
  constructor
  case distinct => exact hids ▸ mapIds_nodup es
  case characters =>
    intro b hb
    have hid : b.id ∈ mapIds es := hids ▸ List.mem_map_of_mem hb
    exact isIdentifier_of_mem_mapIds hid
  case once => exact drawn_perm es
  case labels => exact hlabels
  case forms =>
    refine (List.forall₂_map_right_iff.mp hsearches.candidates).imp ?_
    rintro e b ⟨n, hform⟩
    cases n with
    | zero => exact Or.inl hform
    | succ n => exact Or.inr ⟨n + 2, by omega, hform⟩
  case searches => exact hsearches

/-- An endpoint that is read at a path and has a tag. -/
def tagged (path tag : String) : Endpoint :=
  { (default : Endpoint) with path := path, tags := [tag] }

/-- The second path takes the identifier that is made from the third one. -/
def kiosks : List Endpoint :=
  [tagged "/a-b" "Misc", tagged "/a/b" "Misc", tagged "/a_b_2" "Other"]

theorem mapIds_kiosks : mapIds kiosks = ["GET_a_b", "GET_a_b_2", "GET_a_b_2_2"] := by
  rw [mapIds, groupNames_of_ascending (by decide)]
  decide +kernel

theorem wellIdentified_boxesIn_kiosks :
    (boxesIn (endpointMap kiosks)).map Box.id = ["GET_a_b", "GET_a_b_2", "GET_a_b_2_2"] ∧
      WellIdentified kiosks (boxesIn (endpointMap kiosks)) := by
  have hlines : ∀ e ∈ kiosks, IsOneLine e := by decide
  exact ⟨(boxesIn_endpointMap hlines).1.trans mapIds_kiosks, wellIdentified_boxesIn hlines⟩

/-! ### Frames -/

/-- No identifier of a frame is that of another frame or of a box. -/
structure Unambiguous (text : String) : Prop where
  distinct : (framesIn text).Nodup
  apart : ∀ id ∈ framesIn text, id ∉ (boxesIn text).map Box.id

theorem verb_prefix_boxId (e : Endpoint) :
    (e.verb.name ++ "_").toList <+: (boxId e).toList := by
  have hverb : ∀ cs, sanitizeFrom false ((e.verb.name ++ "_").toList ++ cs)
      = (e.verb.name ++ "_").toList ++ sanitizeFrom true cs := by
    intro cs
    cases e.verb <;> rfl
  have htext : (e.verb.name ++ "_" ++ e.path).toList
      = (e.verb.name ++ "_").toList ++ e.path.toList := String.toList_append
  rw [boxId, sanitize, String.toList_ofList, htext, hverb]
  exact List.prefix_append _ _

theorem prefix_candidate (id : String) (n : Nat) : id.toList <+: (candidate id n).toList := by
  cases n with
  | zero => exact List.prefix_rfl
  | succ n =>
      rw [candidate, numbered, String.append_assoc, String.toList_append]
      exact List.prefix_append _ _

/-- Whatever number is put behind it, the identifier of a box begins with a verb. -/
theorem exists_verb_prefix_of_mem_mapIds {es : List Endpoint} {id : String} (hid : id ∈ mapIds es) :
    ∃ e ∈ es, (e.verb.name ++ "_").toList <+: id.toList := by
  obtain ⟨e, he, n, rfl⟩ := (allocated_mapIds es).exists_candidate id hid
  exact ⟨e, (drawn_perm es).mem_iff.mp he, (verb_prefix_boxId e).trans (prefix_candidate _ n)⟩

/-- Frames have distinct identifiers exactly if no two groups become one identifier. -/
theorem nodup_framesIn_iff {es : List Endpoint} (h : ∀ e ∈ es, IsOneLine e) :
    (framesIn (endpointMap es)).Nodup ↔
      ∀ g ∈ groups es, ∀ g' ∈ groups es, sanitize g = sanitize g' → g = g' := by
  rw [framesIn_endpointMap h, List.nodup_map_iff_inj_on (nodup_groupNames es)]
  simp only [mem_groupNames]

/-- Frames share no identifier with boxes exactly if no group becomes that of a box. -/
theorem framesIn_apart_iff {es : List Endpoint} (h : ∀ e ∈ es, IsOneLine e) :
    (∀ id ∈ framesIn (endpointMap es), id ∉ (boxesIn (endpointMap es)).map Box.id) ↔
      ∀ g ∈ groups es, sanitize g ∉ mapIds es := by
  rw [framesIn_endpointMap h, (boxesIn_endpointMap h).1, List.forall_mem_map]
  simp only [mem_groupNames]

/-- **A map is unambiguous exactly if its groups differ as identifiers and none is that of a box.**
What is made from the verb and the path of an endpoint is always the identifier of a box, and no
box has an identifier that does not begin with a verb. -/
theorem unambiguous_iff {es : List Endpoint} (h : ∀ e ∈ es, IsOneLine e) :
    (Unambiguous (endpointMap es) ↔
      (∀ g ∈ groups es, ∀ g' ∈ groups es, sanitize g = sanitize g' → g = g') ∧
        ∀ g ∈ groups es, sanitize g ∉ mapIds es) ∧
      (∀ e ∈ es, boxId e ∈ mapIds es) ∧
      ∀ id ∈ mapIds es, ∃ e ∈ es, (e.verb.name ++ "_").toList <+: id.toList := by
  refine ⟨?_, fun e => boxId_mem_mapIds, fun id => exists_verb_prefix_of_mem_mapIds⟩
  rw [← nodup_framesIn_iff h, ← framesIn_apart_iff h]
  exact ⟨fun hu => ⟨hu.distinct, hu.apart⟩, fun ⟨hdistinct, hapart⟩ => ⟨hdistinct, hapart⟩⟩

theorem unambiguous_iff_kiosks :
    (∀ e ∈ kiosks, IsOneLine e) ∧ Unambiguous (endpointMap kiosks) := by
  have hlines : ∀ e ∈ kiosks, IsOneLine e := by decide
  refine ⟨hlines, (unambiguous_iff hlines).1.mpr ?_⟩
  rw [mapIds_kiosks]
  decide +kernel

/-- Two groups are one identifier, and a third one is that of an endpoint. -/
def clashing : List Endpoint :=
  [tagged "/items" "GET_users", tagged "/users" "Users Admin", tagged "/orders" "Users-Admin"]

theorem not_unambiguous_clashing :
    framesIn (endpointMap clashing) = ["GET_users", "Users_Admin", "Users_Admin"] ∧
      (boxesIn (endpointMap clashing)).map Box.id = ["GET_items", "GET_users", "GET_orders"] ∧
      ¬ Unambiguous (endpointMap clashing) := by
  have hlines : ∀ e ∈ clashing, IsOneLine e := by decide
  have hgroups : groupNames clashing = ["GET_users", "Users Admin", "Users-Admin"] := by
    rw [groupNames_of_ascending (by decide)]
    decide
  have hframes : framesIn (endpointMap clashing) = ["GET_users", "Users_Admin", "Users_Admin"] := by
    rw [framesIn_endpointMap hlines, hgroups]
    decide
  have hboxes : (boxesIn (endpointMap clashing)).map Box.id
      = ["GET_items", "GET_users", "GET_orders"] := by
    rw [(boxesIn_endpointMap hlines).1, mapIds, hgroups]
    decide +kernel
  refine ⟨hframes, hboxes, fun hu => ?_⟩
  have hdistinct := hu.distinct
  rw [hframes] at hdistinct
  revert hdistinct
  decide

end ServiceAtlas.Report
