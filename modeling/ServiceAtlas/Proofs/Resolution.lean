/-
References stand for written types node by node.

Not every node of a written type is looked at: the root is, every argument of a node that is
looked at and is no array, and the element of an array that is.  What a name or a further
argument of an array says has no influence.  A reference exists exactly when all nodes that
are looked at are sound by themselves, and otherwise the fault is the one of the first that
is not, with the nodes below a node before it: `malformed?_ofWritten` says both at once.

A wildcard is resolved like any other node and dropped only then, so it can make a type
malformed although nothing of it would be left.  What is left otherwise is described one node
at a time, and since every reference inside a reference is itself that of a node that was
looked at (`exists_visited`), facts about one node are facts about whole references.
-/
import Mathlib.Logic.Relation
import ServiceAtlas.TypeRef

namespace ServiceAtlas

open TypeRef (Malformed)

namespace WrittenType

/-! ### The nodes that are looked at -/

/-- A wildcard is named as one; an array never is one, whatever it is named. -/
def isWildcard (t : WrittenType) : Bool :=
  !t.isArray && t.name == wildcardName

/-- What is looked at right below a node: the arguments, or the element of an array. -/
def parts (t : WrittenType) : List WrittenType :=
  if t.isArray then t.args.take 1 else t.args

/-- The first type has the second among the nodes that are looked at. -/
def Visits : WrittenType → WrittenType → Prop :=
  Relation.ReflTransGen fun t part => part ∈ t.parts

/-- What is wrong with a node by itself: an array has no element, anything else no name. -/
def malformed? (t : WrittenType) : Option Malformed :=
  if t.isArray then
    if t.args.isEmpty then some .missingElement else none
  else if t.name.isEmpty then some .emptyName else none

mutual

/-- The nodes that are looked at, those below a node before the node itself. -/
def postorder : WrittenType → List WrittenType
  | .mk name [] true => [.mk name [] true]
  | .mk name (element :: rest) true => postorder element ++ [.mk name (element :: rest) true]
  | .mk name args false => postorderAll args ++ [.mk name args false]

/-- The nodes of several types, type by type. -/
def postorderAll : List WrittenType → List WrittenType
  | [] => []
  | t :: ts => postorder t ++ postorderAll ts

end

/-- Induction over a written type and all its arguments. -/
theorem args_induction {P : WrittenType → Prop}
    (node : ∀ name args isArray, (∀ a ∈ args, P a) → P (.mk name args isArray)) : ∀ t, P t
  | .mk name args isArray => node name args isArray fun a _ => args_induction node a
  termination_by t => sizeOf t
  decreasing_by
    have hsmaller := List.sizeOf_lt_of_mem ‹a ∈ args›
    simp only [WrittenType.mk.sizeOf_spec]
    omega

theorem postorderAll_eq_flatMap (ts : List WrittenType) :
    postorderAll ts = ts.flatMap postorder := by
  induction ts with
  | nil => rfl
  | cons t rest ih => rw [postorderAll, List.flatMap_cons, ih]

theorem postorder_eq (t : WrittenType) : t.postorder = t.parts.flatMap postorder ++ [t] := by
  obtain ⟨name, args, isArray⟩ := t
  cases isArray with
  | false => rw [postorder, postorderAll_eq_flatMap]; rfl
  | true =>
      cases args with
      | nil => rfl
      | cons element rest => simp [postorder, parts, WrittenType.isArray, WrittenType.args]

theorem mem_args_of_mem_parts {t part : WrittenType} (h : part ∈ t.parts) : part ∈ t.args := by
  unfold parts at h
  split at h
  · exact List.mem_of_mem_take h
  · exact h

/-- The list holds the nodes that are looked at and no others. -/
theorem mem_postorder_iff {t n : WrittenType} : n ∈ t.postorder ↔ t.Visits n := by
  constructor
  · induction t using args_induction with
    | node name args isArray ih =>
        intro h
        rw [postorder_eq, List.mem_append, List.mem_flatMap, List.mem_singleton] at h
        rcases h with ⟨part, hpart, hn⟩ | rfl
        · exact .head hpart (ih part (mem_args_of_mem_parts hpart) hn)
        · exact .refl
  · intro h
    induction h using Relation.ReflTransGen.head_induction_on with
    | refl =>
        rw [postorder_eq]
        simp
    | head hpart _ ih =>
        rw [postorder_eq]
        exact List.mem_append_left _ (List.mem_flatMap.mpr ⟨_, hpart, ih⟩)

theorem malformed?_eq_none_iff {t : WrittenType} :
    t.malformed? = none ↔
      (t.isArray = true → t.args ≠ []) ∧ (t.isArray = false → t.name ≠ "") := by
  unfold malformed?
  cases t.isArray <;> simp

end WrittenType

namespace TypeRef

/-! ### When there is a reference, and what is wrong when there is none -/

/-- What kept something from being resolved. -/
def fault? {α : Type} : Except Malformed α → Option Malformed
  | .ok _ => none
  | .error e => some e

theorem fault?_eq_some_iff {α : Type} {outcome : Except Malformed α} {e : Malformed} :
    fault? outcome = some e ↔ outcome = .error e := by
  cases outcome <;> simp [fault?]

theorem fault?_eq_none_iff {α : Type} {outcome : Except Malformed α} :
    fault? outcome = none ↔ ∃ a, outcome = .ok a := by
  cases outcome <;> simp [fault?]

theorem fault?_ofWrittenArgs {ts : List WrittenType}
    (h : ∀ t ∈ ts, fault? (ofWritten t) = t.postorder.findSome? WrittenType.malformed?) :
    fault? (ofWrittenArgs ts) = (ts.flatMap WrittenType.postorder).findSome?
      WrittenType.malformed? := by
  induction ts with
  | nil => rfl
  | cons t rest ih =>
      have hfirst := h t (by simp)
      have hrest := ih fun s hs => h s (by simp [hs])
      rw [List.flatMap_cons, List.findSome?_append, ← hfirst, ← hrest, ofWrittenArgs]
      cases ofWritten t with
      | error e => rfl
      | ok r => cases ofWrittenArgs rest <;> rfl

/-- **The fault of a written type is that of the first unsound node**, with the nodes below a
node before it. -/
theorem fault?_ofWritten (t : WrittenType) :
    fault? (ofWritten t) = t.postorder.findSome? WrittenType.malformed? := by
  induction t using WrittenType.args_induction with
  | node name args isArray ih =>
      rw [WrittenType.postorder_eq, List.findSome?_append]
      cases isArray with
      | false =>
          show _ = (args.flatMap WrittenType.postorder |>.findSome? _).or _
          rw [← fault?_ofWrittenArgs ih, ofWritten]
          cases ofWrittenArgs args with
          | error e => rfl
          | ok rs =>
              by_cases hname : name.isEmpty <;>
                simp [fault?, WrittenType.malformed?, WrittenType.isArray, WrittenType.name, hname]
      | true =>
          cases args with
          | nil => rfl
          | cons element rest =>
              have hparts : (WrittenType.mk name (element :: rest) true).parts = [element] := rfl
              rw [hparts, List.flatMap_singleton, ← ih element (by simp), ofWritten]
              cases ofWritten element <;> rfl

/-! ### What a reference holds -/

variable {t : WrittenType} {r : TypeRef}

/-- The two ways to a reference: an array refers to its element, and anything else has a
name and refers to its arguments. -/
theorem ofWritten_eq_ok (h : ofWritten t = .ok r) :
    (∃ name element rest x, t = .mk name (element :: rest) true ∧ ofWritten element = .ok x ∧
      r = .mk arrayBase [x]) ∨
    ∃ name args rs, t = .mk name args false ∧ name ≠ "" ∧ ofWrittenArgs args = .ok rs ∧
      r = .mk name rs := by
  obtain ⟨name, args, isArray⟩ := t
  cases isArray with
  | true =>
      cases args with
      | nil => cases h
      | cons element rest =>
          rw [ofWritten] at h
          cases helement : ofWritten element with
          | error e => simp [helement] at h
          | ok x =>
              simp only [helement] at h
              cases h
              exact Or.inl ⟨name, element, rest, x, rfl, helement, rfl⟩
  | false =>
      rw [ofWritten] at h
      cases hargs : ofWrittenArgs args with
      | error e => simp [hargs] at h
      | ok rs =>
          by_cases hname : name = ""
          · simp [hargs, hname] at h
          · simp only [hargs, String.isEmpty_iff, hname, if_false] at h
            cases h
            exact Or.inr ⟨name, args, rs, rfl, hname, hargs, rfl⟩

/-- Arrays have a base of their own, and everything else that of its name. -/
theorem base_ofWritten (h : ofWritten t = .ok r) :
    r.base = if t.isArray then arrayBase else t.name := by
  rcases ofWritten_eq_ok h with ⟨_, _, _, _, rfl, -, rfl⟩ | ⟨_, _, _, rfl, -, -, rfl⟩ <;> rfl

theorem base_ne_empty (h : ofWritten t = .ok r) : r.base ≠ "" := by
  rcases ofWritten_eq_ok h with ⟨_, _, _, _, -, -, rfl⟩ | ⟨_, _, _, -, hname, -, rfl⟩
  · show arrayBase ≠ ""
    decide
  · exact hname

/-- Only wildcards are resolved to the base that is dropped: the base of arrays is another. -/
theorem base_eq_wildcard_iff (h : ofWritten t = .ok r) :
    r.base = WrittenType.wildcardName ↔ t.isWildcard = true := by
  have harray : arrayBase ≠ WrittenType.wildcardName := by decide
  rw [base_ofWritten h, WrittenType.isWildcard]
  cases t.isArray <;> simp [harray]

/-- The references to arguments are those to the arguments that are no wildcards, in order. -/
theorem ofWrittenArgs_eq_ok : ∀ {ts : List WrittenType} {rs : List TypeRef},
    ofWrittenArgs ts = .ok rs →
      rs.map .ok = (ts.filter fun a => !a.isWildcard).map ofWritten := by
  intro ts
  induction ts with
  | nil =>
      intro rs h
      cases h
      rfl
  | cons t rest ih =>
      intro rs h
      rw [ofWrittenArgs] at h
      cases ht : ofWritten t with
      | error e => simp [ht] at h
      | ok r =>
          cases hrest : ofWrittenArgs rest with
          | error e => simp [ht, hrest] at h
          | ok rs' =>
              simp only [ht, hrest] at h
              cases h
              have hwild := base_eq_wildcard_iff ht
              cases hw : t.isWildcard with
              | true => simp [hwild.mpr hw, hw, ih hrest]
              | false =>
                  have hbase : r.base ≠ WrittenType.wildcardName := fun hc => by
                    simp [hwild.mp hc] at hw
                  simp [hbase, hw, ht, ih hrest]

/-- The arguments of anything but an array are referred to in order, wildcards left out. -/
theorem args_ofWritten (hgeneric : t.isArray = false) (h : ofWritten t = .ok r) :
    r.args.map .ok = (t.args.filter fun a => !a.isWildcard).map ofWritten := by
  rcases ofWritten_eq_ok h with ⟨_, _, _, _, rfl, -, -⟩ | ⟨_, _, _, rfl, -, hargs, rfl⟩
  · cases hgeneric
  · exact ofWrittenArgs_eq_ok hargs

/-- Every argument of a reference is that of a part, and below anything but an array of a
part that is no wildcard. -/
theorem exists_part {a : TypeRef} (h : ofWritten t = .ok r) (ha : a ∈ r.args) :
    ∃ part ∈ t.parts, ofWritten part = .ok a ∧
      (t.isArray = true ∧ r = .mk arrayBase [a] ∨ part.isWildcard = false) := by
  rcases ofWritten_eq_ok h with
    ⟨_, element, _, x, rfl, helement, rfl⟩ | ⟨_, args, rs, rfl, -, hargs, rfl⟩
  · obtain rfl : a = x := List.mem_singleton.mp ha
    exact ⟨element, List.mem_singleton.mpr rfl, helement, Or.inl ⟨rfl, rfl⟩⟩
  · have hmem : Except.ok a ∈ rs.map (Except.ok (ε := Malformed)) := List.mem_map_of_mem ha
    rw [ofWrittenArgs_eq_ok hargs] at hmem
    obtain ⟨part, hpart, hresolved⟩ := List.mem_map.mp hmem
    obtain ⟨hpart, hkept⟩ := List.mem_filter.mp hpart
    exact ⟨part, hpart, hresolved, Or.inr (by simpa using hkept)⟩

/-! ### Whole references -/

/-- The second reference is the first one or stands somewhere inside it. -/
def Within : TypeRef → TypeRef → Prop :=
  Relation.ReflTransGen fun r a => a ∈ r.args

/-- **Every reference inside a reference is that of a node that is looked at**, and what holds
of the root and of all parts that are kept holds of that node. -/
theorem exists_visited {P : WrittenType → Prop} {p : TypeRef} (hroot : P t)
    (hparts : ∀ n, t.Visits n → ∀ part ∈ n.parts,
      n.isArray = true ∨ part.isWildcard = false → P part)
    (h : ofWritten t = .ok r) (hp : r.Within p) :
    ∃ n, t.Visits n ∧ P n ∧ ofWritten n = .ok p := by
  induction hp with
  | refl => exact ⟨t, .refl, hroot, h⟩
  | tail _ ha ih =>
      obtain ⟨n, hn, -, hresolved⟩ := ih
      obtain ⟨part, hpart, hpart', hkept⟩ := exists_part hresolved ha
      exact ⟨part, hn.tail hpart, hparts n hn part hpart (hkept.imp And.left id), hpart'⟩

/-- A wildcard is left only where it is the element of an array. -/
theorem eq_array_of_wildcard {a : TypeRef} (h : ofWritten t = .ok r) (ha : a ∈ r.args)
    (hwild : a.base = WrittenType.wildcardName) : r = .mk arrayBase [a] := by
  obtain ⟨part, -, hpart, ⟨-, harray⟩ | hkept⟩ := exists_part h ha
  · exact harray
  · rw [(base_eq_wildcard_iff hpart).mp hwild] at hkept
    cases hkept

/--
**References keep everything of a written type but its wildcards.**  There is a reference
exactly when every array that is looked at has an element and everything else that is looked
at has a name, and otherwise the first node that is wrong, with the nodes below a node before
it, gives the fault.  The reference to an array holds that to its element alone; any other
reference has the name of the type and the references to its arguments in order, wildcards
left out.  So every base is a name, and a wildcard is found below the root only as the
element of an array.
-/
theorem ofWritten_homomorphic (t : WrittenType) :
    ((∃ r, ofWritten t = .ok r) ↔ ∀ n, t.Visits n →
      (n.isArray = true → n.args ≠ []) ∧ (n.isArray = false → n.name ≠ "")) ∧
    (∀ n, n ∈ t.postorder ↔ t.Visits n) ∧
    (∀ e, ofWritten t = .error e ↔ ∃ before n behind, t.postorder = before ++ n :: behind ∧
      (∀ m ∈ before, m.malformed? = none) ∧ n.malformed? = some e) ∧
    ∀ r, ofWritten t = .ok r →
      (t.isArray = true → ∃ element rest x, t.args = element :: rest ∧
        ofWritten element = .ok x ∧ r = .mk "Array" [x]) ∧
      (t.isArray = false → r.base = t.name ∧
        r.args.map .ok = (t.args.filter fun a => !a.isWildcard).map ofWritten) ∧
      ∀ p, r.Within p → p.base ≠ "" ∧
        ∀ a ∈ p.args, a.base = "?" → p = .mk "Array" [a] := by
  refine ⟨?_, fun n => WrittenType.mem_postorder_iff, fun e => ?_, fun r h => ⟨?_, ?_, ?_⟩⟩
  · rw [← fault?_eq_none_iff, fault?_ofWritten, List.findSome?_eq_none_iff]
    simp only [WrittenType.mem_postorder_iff, WrittenType.malformed?_eq_none_iff]
  · rw [← fault?_eq_some_iff, fault?_ofWritten, List.findSome?_eq_some_iff]
    constructor
    · rintro ⟨before, n, behind, hsplit, hn, hbefore⟩
      exact ⟨before, n, behind, hsplit, hbefore, hn⟩
    · rintro ⟨before, n, behind, hsplit, hbefore, hn⟩
      exact ⟨before, n, behind, hsplit, hn, hbefore⟩
  · intro harray
    rcases ofWritten_eq_ok h with
      ⟨_, element, rest, x, rfl, helement, rfl⟩ | ⟨_, _, _, rfl, -, -, -⟩
    · exact ⟨element, rest, x, rfl, helement, rfl⟩
    · cases harray
  · intro hgeneric
    refine ⟨?_, args_ofWritten hgeneric h⟩
    rw [base_ofWritten h, hgeneric]
    rfl
  · intro p hp
    obtain ⟨n, -, -, hn⟩ := exists_visited (P := fun _ => True) trivial
      (fun _ _ _ _ _ => trivial) h hp
    exact ⟨base_ne_empty hn, fun a ha hwild => eq_array_of_wildcard hn ha hwild⟩

/-- A page of lists of arrays, with a wildcard that is dropped and one that is an element. -/
def wildPage : WrittenType :=
  .mk "Page" [.wildcard, .mk "List" [.arrayOf .wildcard] false] false

/-- A page with two faults, the first of them inside a wildcard. -/
def brokenPage : WrittenType :=
  .mk "Page" [.mk "?" [.simple ""] false, .mk "Item[]" [] true] false

theorem ofWritten_homomorphic_pages :
    (∃ r, ofWritten wildPage = .ok r ∧ r.base = "Page" ∧
      r.args.map .ok = [ofWritten (.mk "List" [.arrayOf .wildcard] false)] ∧
      ∀ p, r.Within p → p.base ≠ "" ∧ ∀ a ∈ p.args, a.base = "?" → p = .mk "Array" [a]) ∧
    ofWritten brokenPage = .error .emptyName := by
  obtain ⟨-, -, -, hheld⟩ := ofWritten_homomorphic wildPage
  obtain ⟨-, -, hfaults, -⟩ := ofWritten_homomorphic brokenPage
  constructor
  · have hresolved : ofWritten wildPage
        = .ok (.mk "Page" [.mk "List" [.mk "Array" [.mk "?" []]]]) := rfl
    obtain ⟨-, hgeneric, hinside⟩ := hheld _ hresolved
    obtain ⟨hbase, hargs⟩ := hgeneric rfl
    exact ⟨_, hresolved, hbase, hargs, hinside⟩
  · exact (hfaults .emptyName).mpr ⟨[], .simple "", _, rfl, nofun, rfl⟩

end TypeRef

end ServiceAtlas
