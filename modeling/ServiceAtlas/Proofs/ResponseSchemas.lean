/-
A response schema shows two levels of a type, and no wildcard.

Whether a type has one argument decides at the root, and whether it has any decides below it;
beyond the base of the first argument found there nothing is looked at.  `AgreesNearRoot` is
that part of a type, and types that agree on it have one schema.

Hence the names that a schema refers to are bases of the first three levels of a reference.
A base is that of a wildcard only at the root or as the element of an array, so where a type
is written without such wildcards a schema never refers to one.
-/
import ServiceAtlas.OpenApi.Schema
import ServiceAtlas.Proofs.Resolution
import ServiceAtlas.Proofs.Survey

namespace ServiceAtlas

/-! ### Members anywhere in a value -/

namespace Json

/-- The value is that of a member with the name, somewhere in a JSON value. -/
inductive Holds (name : String) (v : Json) : Json → Prop
  | here {members : List (String × Json)} (hmem : (name, v) ∈ members) :
      Holds name v (.obj members)
  | member {members : List (String × Json)} {other : String} {w : Json}
      (hmem : (other, w) ∈ members) (hw : Holds name v w) : Holds name v (.obj members)
  | item {items : List Json} {w : Json} (hmem : w ∈ items) (hw : Holds name v w) :
      Holds name v (.arr items)

variable {name : String} {v : Json}

@[simp] theorem not_holds_str (s : String) : ¬ Holds name v (.str s) :=
  nofun

@[simp] theorem holds_obj_iff {members : List (String × Json)} :
    Holds name v (.obj members) ↔ ∃ m ∈ members, m = (name, v) ∨ Holds name v m.2 := by
  constructor
  · intro h
    cases h with
    | here hmem => exact ⟨_, hmem, Or.inl rfl⟩
    | member hmem hw => exact ⟨_, hmem, Or.inr hw⟩
  · rintro ⟨m, hmem, rfl | hw⟩
    · exact .here hmem
    · exact .member hmem hw

@[simp] theorem holds_arr_iff {items : List Json} :
    Holds name v (.arr items) ↔ ∃ w ∈ items, Holds name v w := by
  constructor
  · intro h
    cases h with
    | item hmem hw => exact ⟨_, hmem, hw⟩
  · rintro ⟨w, hmem, hw⟩
    exact .item hmem hw

end Json

namespace WrittenType

/-- Neither the type itself nor the element of an array that is looked at is a wildcard. -/
structure Definite (t : WrittenType) : Prop where
  root : t.isWildcard = false
  element : ∀ n, t.Visits n → n.isArray = true → ∀ part ∈ n.parts, part.isWildcard = false

theorem definite_iff {t : WrittenType} :
    t.Definite ↔ t.isWildcard = false ∧
      ∀ n ∈ t.postorder, n.isArray = true → ∀ part ∈ n.parts, part.isWildcard = false := by
  constructor
  · rintro ⟨hroot, helement⟩
    exact ⟨hroot, fun n hn => helement n (mem_postorder_iff.mp hn)⟩
  · rintro ⟨hroot, helement⟩
    exact ⟨hroot, fun n hn => helement n (mem_postorder_iff.mpr hn)⟩

instance (t : WrittenType) : Decidable t.Definite :=
  decidable_of_iff _ definite_iff.symm

end WrittenType

namespace TypeRef

/-! ### The part of a type that is looked at -/

/-- Two types agree on the base of the root, on whether it has one argument, and if it has
on the base of that argument, on whether it has arguments itself and on the base of the first
of these. -/
structure AgreesNearRoot (r s : TypeRef) : Prop where
  base : r.base = s.base
  single : r.args.length = 1 ↔ s.args.length = 1
  argument : ∀ {a b : TypeRef}, r.args = [a] → s.args = [b] → a.base = b.base
  further : ∀ {a b : TypeRef}, r.args = [a] → s.args = [b] → (a.args = [] ↔ b.args = [])
  first : ∀ {a b x y : TypeRef} {xs ys : List TypeRef}, r.args = [a] → s.args = [b] →
    a.args = x :: xs → b.args = y :: ys → x.base = y.base

/-- The types at a depth of a type, which itself is at depth 0. -/
def level : Nat → TypeRef → List TypeRef
  | 0, r => [r]
  | depth + 1, r => r.args.flatMap (level depth)

theorem within_of_mem_level {p : TypeRef} :
    ∀ {depth : Nat} {r : TypeRef}, p ∈ r.level depth → r.Within p := by
  intro depth
  induction depth with
  | zero =>
      intro r hp
      rw [List.mem_singleton.mp hp]
      exact .refl
  | succ depth ih =>
      intro r hp
      obtain ⟨a, ha, hpa⟩ := List.mem_flatMap.mp hp
      exact .head ha (ih hpa)

/-- **No wildcard is left of a definite type.** -/
theorem base_ne_wildcard {t : WrittenType} {r p : TypeRef} (hdefinite : t.Definite)
    (h : ofWritten t = .ok r) (hp : r.Within p) : p.base ≠ WrittenType.wildcardName := by
  have hparts : ∀ n, t.Visits n → ∀ part ∈ n.parts,
      n.isArray = true ∨ part.isWildcard = false → part.isWildcard = false := by
    rintro n hn part hpart (harray | hkept)
    · exact hdefinite.element n hn harray part hpart
    · exact hkept
  obtain ⟨n, -, hkept, hn⟩ := exists_visited hdefinite.root hparts h hp
  intro hwild
  rw [(base_eq_wildcard_iff hn).mp hwild] at hkept
  cases hkept

end TypeRef

namespace OpenApi.Schema

open TypeRef (level)

variable (style : DocumentStyle)

/-! ### Schemas of types that agree -/

theorem ofWrapped_congr {a b : TypeRef} (hbase : a.base = b.base)
    (hfurther : a.args = [] ↔ b.args = [])
    (hfirst : ∀ {x y : TypeRef} {xs ys : List TypeRef}, a.args = x :: xs → b.args = y :: ys →
      x.base = y.base) :
    ofWrapped style a = ofWrapped style b := by
  obtain ⟨name, as⟩ := a
  obtain ⟨name', bs⟩ := b
  obtain rfl : name = name' := hbase
  cases as with
  | nil =>
      obtain rfl : bs = [] := hfurther.mp rfl
      rfl
  | cons x xs =>
      cases bs with
      | nil => cases hfurther.mpr rfl
      | cons y ys => simp only [ofWrapped, hfirst rfl rfl]

theorem ofResponse_single (base : String) (a : TypeRef) :
    ofResponse style (.mk base [a])
      = if style.collectionTypes.contains base then list a.base
        else wrapper base (ofWrapped style a) :=
  rfl

theorem ofResponse_other {base : String} {as : List TypeRef} (h : as.length ≠ 1) :
    ofResponse style (.mk base as) = reference base := by
  match as with
  | [] => rfl
  | [a] => exact absurd rfl h
  | a :: b :: rest => rfl

theorem ofResponse_congr {r s : TypeRef} (hagree : r.AgreesNearRoot s) :
    ofResponse style r = ofResponse style s := by
  obtain ⟨base, as⟩ := r
  obtain ⟨base', bs⟩ := s
  obtain ⟨hbase, hsingle, hargument, hfurther, hfirst⟩ := hagree
  obtain rfl : base = base' := hbase
  by_cases hone : as.length = 1
  · obtain ⟨a, rfl⟩ := List.length_eq_one_iff.mp hone
    obtain ⟨b, rfl⟩ := List.length_eq_one_iff.mp (hsingle.mp hone)
    have hwrapped : ofWrapped style a = ofWrapped style b :=
      ofWrapped_congr style (hargument rfl rfl) (hfurther rfl rfl) (hfirst rfl rfl)
    rw [ofResponse_single, ofResponse_single, hargument rfl rfl, hwrapped]
  · have hother : bs.length ≠ 1 := fun hc => hone (hsingle.mpr hc)
    rw [ofResponse_other style hone, ofResponse_other style hother]

/-! ### What a schema refers to -/

/-- The names of models that a schema refers to. -/
def names : Schema → List String
  | object => []
  | reference name => [name]
  | list item => [item]
  | wrapper name data => name :: data.names

theorem holds_referenceJson_iff {name : String} {v : Json} :
    Json.Holds "$ref" v (referenceJson name) ↔ v = .str (referenceStart ++ name) := by
  simp [referenceJson, eq_comm]

/-- The references in a schema as it is written are those to the names of the schema. -/
theorem holds_toJson_iff {v : Json} (schema : Schema) :
    Json.Holds "$ref" v schema.toJson ↔ ∃ name ∈ schema.names, v = .str (referenceStart ++ name) := by
  induction schema with
  | object => simp [toJson, names]
  | reference name => simp [toJson, names, holds_referenceJson_iff]
  | list item => simp [toJson, names, holds_referenceJson_iff]
  | wrapper name data ih => simp [toJson, names, holds_referenceJson_iff, ih]

theorem exists_level_of_mem_ofWrapped {name : String} {a : TypeRef}
    (h : name ∈ (ofWrapped style a).names) :
    ∃ depth ≤ 1, ∃ p ∈ a.level depth, p.base = name := by
  obtain ⟨base, as⟩ := a
  cases as with
  | nil =>
      rw [ofWrapped] at h
      split at h
      · cases h
      · exact ⟨0, by omega, _, List.mem_singleton.mpr rfl, (List.mem_singleton.mp h).symm⟩
  | cons x rest =>
      rw [ofWrapped] at h
      split at h
      · refine ⟨1, by omega, x, ?_, (List.mem_singleton.mp h).symm⟩
        exact List.mem_flatMap.mpr ⟨x, List.mem_cons_self, List.mem_singleton.mpr rfl⟩
      · exact ⟨0, by omega, _, List.mem_singleton.mpr rfl, (List.mem_singleton.mp h).symm⟩

/-- **A schema refers to bases of the first three levels of a type.** -/
theorem exists_level_of_mem_ofResponse {name : String} {r : TypeRef}
    (h : name ∈ (ofResponse style r).names) :
    ∃ depth ≤ 2, ∃ p ∈ r.level depth, p.base = name := by
  obtain ⟨base, as⟩ := r
  by_cases hone : as.length = 1
  · obtain ⟨a, rfl⟩ := List.length_eq_one_iff.mp hone
    have hbelow {depth : Nat} {p : TypeRef} (hp : p ∈ a.level depth) :
        p ∈ level (depth + 1) (.mk base [a]) :=
      List.mem_flatMap.mpr ⟨a, List.mem_cons_self, hp⟩
    rw [ofResponse_single] at h
    split at h
    · exact ⟨1, by omega, a, hbelow (List.mem_singleton.mpr rfl), (List.mem_singleton.mp h).symm⟩
    · rcases List.mem_cons.mp h with rfl | hdata
      · exact ⟨0, by omega, _, List.mem_singleton.mpr rfl, rfl⟩
      · obtain ⟨depth, hdepth, p, hp, hname⟩ := exists_level_of_mem_ofWrapped style hdata
        exact ⟨depth + 1, by omega, p, hbelow hp, hname⟩
  · rw [ofResponse_other style hone] at h
    exact ⟨0, by omega, _, List.mem_singleton.mpr rfl, (List.mem_singleton.mp h).symm⟩

/--
**A response schema depends on two levels of a type and refers to no wildcard.**  Types that
agree near the root have the same schema.  A well formed type, neither itself nor in its
arrays a wildcard, has a reference, and whatever its schema refers to anywhere is a model
named by a type at most two levels deep in that reference, which is no wildcard.
-/
theorem ofResponse_bounded (style : DocumentStyle) :
    (∀ r s : TypeRef, r.AgreesNearRoot s → ofResponse style r = ofResponse style s) ∧
    ∀ t : WrittenType, t.isWellFormed = true → t.Definite →
      ∃ r, TypeRef.ofWritten t = .ok r ∧
        ∀ v, Json.Holds "$ref" v (ofResponse style r).toJson →
          ∃ depth ≤ 2, ∃ p ∈ r.level depth,
            v = .str ("#/components/schemas/" ++ p.base) ∧ p.base ≠ "?" := by
  refine ⟨fun r s => ofResponse_congr style, fun t hwf hdefinite => ?_⟩
  obtain ⟨r, hr⟩ := TypeRef.ofWritten_ok t hwf
  refine ⟨r, hr, fun v hv => ?_⟩
  obtain ⟨name, hname, rfl⟩ := (holds_toJson_iff _).mp hv
  obtain ⟨depth, hdepth, p, hp, rfl⟩ := exists_level_of_mem_ofResponse style hname
  exact ⟨depth, hdepth, p, hp, rfl,
    TypeRef.base_ne_wildcard hdefinite hr (TypeRef.within_of_mem_level hp)⟩

/-- A wrapped list of items that say nothing more. -/
def plainAnswer : TypeRef :=
  .mk "Answer" [.mk "List" [.mk "Item" []]]

/-- A wrapped list of two things, the first of them generic. -/
def nestedAnswer : TypeRef :=
  .mk "Answer" [.mk "List" [.mk "Item" [.mk "Set" [.mk "Part" []]], .mk "Cursor" []]]

/-- A wrapped array of maps from something unknown. -/
def writtenAnswer : WrittenType :=
  .mk "Answer" [.arrayOf (.mk "Map" [.wildcard, .simple "Item"] false)] false

theorem ofResponse_bounded_answers :
    plainAnswer.AgreesNearRoot nestedAnswer ∧
    ofResponse .standard plainAnswer = ofResponse .standard nestedAnswer ∧
    writtenAnswer.isWellFormed = true ∧ writtenAnswer.Definite ∧
      ∃ r, TypeRef.ofWritten writtenAnswer = .ok r ∧
        ∀ v, Json.Holds "$ref" v (ofResponse .standard r).toJson →
          ∃ depth ≤ 2, ∃ p ∈ r.level depth,
            v = .str ("#/components/schemas/" ++ p.base) ∧ p.base ≠ "?" := by
  obtain ⟨hsame, hnamed⟩ := ofResponse_bounded .standard
  have hagree : plainAnswer.AgreesNearRoot nestedAnswer := by
    constructor
    case base => rfl
    case single => decide
    case argument =>
      rintro _ _ ⟨⟩ ⟨⟩
      rfl
    case further =>
      rintro _ _ ⟨⟩ ⟨⟩
      exact ⟨nofun, nofun⟩
    case first =>
      rintro _ _ _ _ _ _ ⟨⟩ ⟨⟩ ⟨⟩ ⟨⟩
      rfl
  have hwf : writtenAnswer.isWellFormed = true := by decide
  have hdefinite : writtenAnswer.Definite := by decide
  exact ⟨hagree, hsame _ _ hagree, hwf, hdefinite, hnamed _ hwf hdefinite⟩

end OpenApi.Schema

end ServiceAtlas
