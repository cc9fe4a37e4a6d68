/-
What writing to an ordered map does to its size, its keys and its look-ups.

`insert` is described by `get?_insert` and `keys_insert`; everything here follows from
those two.  A map built from a list of pairs answers every key with the last pair of that
key, so the order of the pairs does not matter when their keys are distinct.
-/
import Mathlib.Algebra.GroupWithZero.Nat
import Mathlib.Data.List.Nodup
import Mathlib.Data.List.Perm.Basic
import ServiceAtlas.OrderedMap

namespace ServiceAtlas.OrderedMap

variable {α β : Type}

theorem size_eq_length_keys (m : OrderedMap α β) : m.size = m.keys.length := by
  simp [size, keys]

/-- The keys of maps with the same keys differ in order alone. -/
theorem keys_perm {m n : OrderedMap α β} (h : ∀ k, k ∈ m.keys ↔ k ∈ n.keys) :
    m.keys.Perm n.keys :=
  (List.perm_ext_iff_of_nodup m.nodup n.nodup).mpr h

variable [DecidableEq α]

/-! ### Keys and look-ups agree -/

theorem lookup_eq_none_iff {k : α} {es : List (α × β)} :
    es.lookup k = none ↔ k ∉ es.map Prod.fst := by
  induction es with
  | nil => simp
  | cons e rest ih =>
      obtain ⟨a, b⟩ := e
      by_cases h : k = a
      · simp [h]
      · have hne : (k == a) = false := by simpa using h
        simp only [List.lookup_cons, hne, List.map_cons, List.mem_cons, h, false_or]
        exact ih

theorem get?_eq_none_iff {m : OrderedMap α β} {k : α} : m.get? k = none ↔ k ∉ m.keys :=
  lookup_eq_none_iff

theorem mem_keys_iff {m : OrderedMap α β} {k : α} : k ∈ m.keys ↔ ∃ v, m.get? k = some v := by
  rw [← Option.ne_none_iff_exists', ne_eq, get?_eq_none_iff, not_not]

theorem contains_iff {m : OrderedMap α β} {k : α} : m.contains k = true ↔ k ∈ m.keys := by
  simp [contains]

theorem lookup_eq_some_iff {k : α} {v : β} {es : List (α × β)} (hnd : (es.map Prod.fst).Nodup) :
    es.lookup k = some v ↔ (k, v) ∈ es := by
  induction es with
  | nil => simp
  | cons e rest ih =>
      obtain ⟨a, b⟩ := e
      rw [List.map_cons, List.nodup_cons] at hnd
      by_cases h : k = a
      · subst h
        have hout : (k, v) ∉ rest := fun hmem =>
          hnd.1 (List.mem_map.mpr ⟨(k, v), hmem, rfl⟩)
        simp [hout, eq_comm]
      · have hne : (k == a) = false := by simpa using h
        simp only [List.lookup_cons, hne, List.mem_cons, Prod.mk.injEq, h, false_and, false_or]
        exact ih hnd.2

theorem get?_eq_some_iff {m : OrderedMap α β} {k : α} {v : β} :
    m.get? k = some v ↔ (k, v) ∈ m.entries :=
  lookup_eq_some_iff m.nodup

/-- The entries are the keys in their order, each with the value that a look-up gives. -/
theorem map_entries_eq {γ : Type} (f : β → γ) (fallback : γ) (m : OrderedMap α β) :
    (m.entries.map fun e => (e.1, f e.2))
      = m.keys.map fun k => (k, ((m.get? k).map f).getD fallback) := by
  rw [keys, List.map_map]
  refine List.map_congr_left fun e he => ?_
  have hget : m.get? e.1 = some e.2 := get?_eq_some_iff.mpr he
  simp [hget]

/-- Maps that answer every key alike have the same entries up to order. -/
theorem entries_perm {m n : OrderedMap α β} (h : ∀ k, m.get? k = n.get? k) :
    m.entries.Perm n.entries := by
  refine (List.perm_ext_iff_of_nodup m.nodup.of_map n.nodup.of_map).mpr fun e => ?_
  obtain ⟨k, v⟩ := e
  rw [← get?_eq_some_iff, ← get?_eq_some_iff, h k]

/-- The entries are the keys that have a value, each with its value. -/
theorem entries_eq_filterMap (m : OrderedMap α β) :
    m.entries = m.keys.filterMap fun k => (m.get? k).map (k, ·) := by
  rw [keys, List.filterMap_map]
  have hentry : ∀ e ∈ m.entries, ((fun k => (m.get? k).map (k, ·)) ∘ Prod.fst) e = some e := by
    intro e he
    have hget : m.get? e.1 = some e.2 := get?_eq_some_iff.mpr he
    simp [hget]
  rw [List.filterMap_congr hentry, List.filterMap_some]

/-- A map is its keys in order and what they are answered. -/
theorem ext_get? {m n : OrderedMap α β} (hkeys : m.keys = n.keys)
    (hget : ∀ k, m.get? k = n.get? k) : m = n := by
  refine ext_entries ?_
  rw [entries_eq_filterMap, entries_eq_filterMap, hkeys]
  exact List.filterMap_congr fun k _ => by rw [hget k]

/-! ### Sizes -/

/-- A write adds an entry exactly when the key is new. -/
theorem size_insert (m : OrderedMap α β) (k : α) (v : β) :
    (m.insert k v).size = if k ∈ m.keys then m.size else m.size + 1 := by
  rw [size_eq_length_keys, keys_insert, size_eq_length_keys]
  split
  · rfl
  · simp

theorem mem_keys_insert {m : OrderedMap α β} {k k' : α} {v : β} :
    k' ∈ (m.insert k v).keys ↔ k' = k ∨ k' ∈ m.keys := by
  rw [keys_insert]
  split
  · rename_i hk
    constructor
    · exact Or.inr
    · rintro (rfl | h)
      · exact hk
      · exact h
  · simp [or_comm]

theorem sum_upsert (f : β → Nat) (k : α) (v : β) (es : List (α × β)) :
    ((upsert k v es).map fun e => f e.2).sum + ((es.lookup k).map f).getD 0
      = (es.map fun e => f e.2).sum + f v := by
  induction es with
  | nil => simp [upsert]
  | cons e rest ih =>
      obtain ⟨a, b⟩ := e
      by_cases h : a = k
      · subst h
        simp [upsert]
        omega
      · have hne : (k == a) = false := by simpa using fun hc : k = a => h hc.symm
        simp only [upsert, if_neg h, List.lookup_cons, hne, List.map_cons, List.sum_cons]
        omega

/-- A write changes the total of a measure by the new value less the one it replaces. -/
theorem sum_values_insert (f : β → Nat) (m : OrderedMap α β) (k : α) (v : β) :
    ((m.insert k v).values.map f).sum + ((m.get? k).map f).getD 0
      = (m.values.map f).sum + f v := by
  have hsum := sum_upsert f k v m.entries
  simp only [values, List.map_map]
  exact hsum

/-! ### Maps built from pairs -/

/-- Among the pairs that items give, the first of a key is that of the first item that gives
one of the key. -/
theorem lookup_filterMap {γ : Type} (f : γ → Option (α × β)) (k : α) :
    ∀ cs : List γ, (cs.filterMap f).lookup k
      = (cs.find? fun c => (f c).map Prod.fst = some k).bind fun c => (f c).map Prod.snd := by
  intro cs
  induction cs with
  | nil => rfl
  | cons c rest ih =>
      cases hc : f c with
      | none => simp [hc, ih]
      | some p =>
          obtain ⟨a, b⟩ := p
          by_cases h : a = k
          · simp [hc, h]
          · have hne : (k == a) = false := by simpa using fun hk : k = a => h hk.symm
            simp [hc, h, hne, List.lookup_cons, ih]

theorem get?_foldl_insert (pairs : List (α × β)) :
    ∀ (m : OrderedMap α β) (k : α),
      (pairs.foldl (fun m p => m.insert p.1 p.2) m).get? k
        = (pairs.reverse.lookup k).or (m.get? k) := by
  induction pairs with
  | nil => intro m k; simp
  | cons p rest ih =>
      intro m k
      obtain ⟨a, b⟩ := p
      rw [List.foldl_cons, ih, get?_insert, List.reverse_cons, List.lookup_append]
      by_cases h : k = a
      · subst h
        simp
      · have hne : (k == a) = false := by simpa using h
        simp [h, List.lookup_cons, hne]

theorem mem_keys_foldl_insert (pairs : List (α × β)) :
    ∀ {m : OrderedMap α β} {k : α}, k ∈ (pairs.foldl (fun m p => m.insert p.1 p.2) m).keys ↔
      k ∈ m.keys ∨ k ∈ pairs.map Prod.fst := by
  induction pairs with
  | nil => intro m k; simp
  | cons p rest ih =>
      intro m k
      rw [List.foldl_cons, ih, mem_keys_insert, List.map_cons, List.mem_cons]
      tauto

/-- A key that is written once has the value that is written. -/
theorem get?_foldl_insert_of_mem {pairs : List (α × β)} (hnd : (pairs.map Prod.fst).Nodup)
    {k : α} {v : β} (hmem : (k, v) ∈ pairs) (m : OrderedMap α β) :
    (pairs.foldl (fun m p => m.insert p.1 p.2) m).get? k = some v := by
  have hrev : (pairs.reverse.map Prod.fst).Nodup := by
    rw [List.map_reverse]
    exact List.nodup_reverse.mpr hnd
  have hlast : pairs.reverse.lookup k = some v :=
    (lookup_eq_some_iff hrev).mpr (List.mem_reverse.mpr hmem)
  rw [get?_foldl_insert, hlast]
  rfl

/-- A key that is not written keeps its value. -/
theorem get?_foldl_insert_of_not_mem {pairs : List (α × β)} {k : α}
    (hmem : k ∉ pairs.map Prod.fst) (m : OrderedMap α β) :
    (pairs.foldl (fun m p => m.insert p.1 p.2) m).get? k = m.get? k := by
  have hnone : pairs.reverse.lookup k = none := by
    rw [lookup_eq_none_iff, List.map_reverse, List.mem_reverse]
    exact hmem
  rw [get?_foldl_insert, hnone]
  rfl

/-- **The last pair of a key decides.** -/
theorem get?_ofList (pairs : List (α × β)) (k : α) :
    (ofList pairs).get? k = pairs.reverse.lookup k := by
  rw [ofList, get?_foldl_insert]
  simp

/-- A map of the items of a list answers a key with the last item of that key. -/
theorem get?_ofList_map {γ : Type} (key : γ → α) (value : γ → β) (cs : List γ) (k : α) :
    (ofList (cs.map fun c => (key c, value c))).get? k
      = ((cs.filter fun c => key c = k).getLast?).map value := by
  rw [get?_ofList, ← List.map_reverse, ← List.filterMap_eq_map', lookup_filterMap,
    List.getLast?_filter]
  simp only [Option.map_some, Option.some.injEq]
  cases cs.reverse.find? fun c => key c = k <;> rfl

theorem eraseDups_concat (as : List α) (a : α) :
    (as ++ [a]).eraseDups = if a ∈ as then as.eraseDups else as.eraseDups ++ [a] := by
  rw [List.eraseDups_append]
  by_cases hmem : a ∈ as <;> simp [List.removeAll, hmem, List.eraseDups_cons]

theorem eraseDups_of_nodup {as : List α} (hnodup : as.Nodup) : as.eraseDups = as := by
  induction as with
  | nil => rfl
  | cons a rest ih =>
      obtain ⟨hnew, hrest⟩ := List.nodup_cons.mp hnodup
      have hkept : rest.filter (fun b => !b == a) = rest :=
        List.filter_eq_self.mpr fun b hb => by simpa using fun heq : b = a => hnew (heq ▸ hb)
      rw [List.eraseDups_cons, hkept, ih hrest]

/-- A fold that notes the key of every item, behind those noted before and once only, has
noted the keys in the order in which they are first seen. -/
theorem foldl_firstSeen {γ σ : Type} {step : σ → γ → σ} {noted : σ → List α} {key : γ → α}
    (hstep : ∀ s c, noted (step s c)
      = if key c ∈ noted s then noted s else noted s ++ [key c]) :
    ∀ (cs : List γ) (s : σ) (before : List α), noted s = before.eraseDups →
      noted (cs.foldl step s) = (before ++ cs.map key).eraseDups := by
  intro cs
  induction cs with
  | nil => intro s before hs; simpa using hs
  | cons c rest ih =>
      intro s before hs
      have hnext : noted (step s c) = (before ++ [key c]).eraseDups := by
        rw [hstep, eraseDups_concat, hs]
        simp only [List.mem_eraseDups]
      have hrest := ih _ _ hnext
      rw [List.append_assoc] at hrest
      exact hrest

/-- **The first pair of a key decides its place.** -/
theorem keys_ofList (pairs : List (α × β)) :
    (ofList pairs).keys = (pairs.map Prod.fst).eraseDups :=
  foldl_firstSeen (fun m p => keys_insert m p.1 p.2) pairs empty [] rfl

/-- **A map is what its entries make.** -/
theorem ofList_entries (m : OrderedMap α β) : ofList m.entries = m := by
  have hnodup : (m.entries.reverse.map Prod.fst).Nodup := by
    rw [List.map_reverse]
    exact List.nodup_reverse.mpr m.nodup
  refine ext_get? ?_ fun k => ?_
  · rw [keys_ofList]
    exact eraseDups_of_nodup m.nodup
  · rw [get?_ofList]
    refine Option.ext fun v => ?_
    rw [lookup_eq_some_iff hnodup, List.mem_reverse, get?_eq_some_iff]

/-- Items that are all repeated, and then others that are, are first seen in the same order
as without the repetition. -/
theorem eraseDups_doubled (as bs : List α) :
    (as ++ as ++ (bs ++ bs)).eraseDups = (as ++ bs).eraseDups := by
  have hself (cs : List α) : (cs ++ cs).eraseDups = cs.eraseDups := by
    have hnone : cs.removeAll cs = [] :=
      List.filter_eq_nil_iff.mpr fun c hc => by simpa using hc
    rw [List.eraseDups_append, hnone]
    exact List.append_nil _
  rw [List.eraseDups_append, hself, List.eraseDups_append]
  have hrest : (bs ++ bs).removeAll (as ++ as) = bs.removeAll as ++ bs.removeAll as := by
    simp [List.removeAll]
  rw [hrest, hself]

/-- **Writing pairs twice is writing them once**, also when the repetition follows one part of
the pairs after another. -/
theorem ofList_doubled (as bs : List (α × β)) :
    ofList (as ++ as ++ (bs ++ bs)) = ofList (as ++ bs) := by
  refine ext_get? ?_ fun k => ?_
  · rw [keys_ofList, keys_ofList]
    simp only [List.map_append]
    exact eraseDups_doubled _ _
  · rw [get?_ofList, get?_ofList]
    simp only [List.reverse_append, List.lookup_append]
    cases bs.reverse.lookup k <;> simp

theorem mem_of_get?_ofList {pairs : List (α × β)} {k : α} {v : β}
    (h : (ofList pairs).get? k = some v) : (k, v) ∈ pairs := by
  rw [get?_ofList] at h
  obtain ⟨before, behind, hsplit, -⟩ := List.lookup_eq_some_iff.mp h
  have hmem : (k, v) ∈ pairs.reverse := by
    rw [hsplit]
    simp
  exact List.mem_reverse.mp hmem

/-- With distinct keys the order of the pairs does not matter. -/
theorem get?_ofList_perm {pairs pairs' : List (α × β)} (hperm : pairs.Perm pairs')
    (hnd : (pairs.map Prod.fst).Nodup) (k : α) :
    (ofList pairs).get? k = (ofList pairs').get? k := by
  have hnd' : (pairs'.map Prod.fst).Nodup := (hperm.map Prod.fst).nodup_iff.mp hnd
  have hrev : (pairs.reverse.map Prod.fst).Nodup := by
    rw [List.map_reverse]
    exact List.nodup_reverse.mpr hnd
  have hrev' : (pairs'.reverse.map Prod.fst).Nodup := by
    rw [List.map_reverse]
    exact List.nodup_reverse.mpr hnd'
  rw [get?_ofList, get?_ofList]
  refine Option.ext fun v => ?_
  rw [lookup_eq_some_iff hrev, lookup_eq_some_iff hrev', List.mem_reverse, List.mem_reverse,
    hperm.mem_iff]

/-! ### Leaving entries out -/

/-- The entries that are kept, in their order. -/
def keep (m : OrderedMap α β) (kept : α → β → Bool) : OrderedMap α β where
  entries := m.entries.filter fun e => kept e.1 e.2
  nodup := m.nodup.sublist (List.filter_sublist.map Prod.fst)

theorem get?_keep (m : OrderedMap α β) (kept : α → β → Bool) (k : α) :
    (m.keep kept).get? k = (m.get? k).filter (kept k) := by
  refine Option.ext fun v => ?_
  rw [get?_eq_some_iff, keep, List.mem_filter, ← get?_eq_some_iff, Option.filter_eq_some_iff]

end ServiceAtlas.OrderedMap
