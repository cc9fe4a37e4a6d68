/-
Maps that remember the order in which their keys were first written.

A map is its list of entries together with the fact that no key occurs twice.  Writing a
key that is present keeps its place and replaces its value, so a fold of `insert` over a
list keeps, for each key, the first place and the last value.  `get?_insert` and
`keys_insert` say exactly that, and nothing else needs to open the structure.
-/

namespace ServiceAtlas

/-- Entries in order of first insertion, with distinct keys. -/
structure OrderedMap (α β : Type) where
  entries : List (α × β)
  nodup : (entries.map Prod.fst).Nodup

namespace OrderedMap

variable {α β : Type}

/-- The map without entries. -/
def empty : OrderedMap α β where
  entries := []
  nodup := by simp

instance : EmptyCollection (OrderedMap α β) := ⟨empty⟩

instance : Inhabited (OrderedMap α β) := ⟨empty⟩

/-- The keys in order of first insertion. -/
def keys (m : OrderedMap α β) : List α :=
  m.entries.map Prod.fst

/-- The values in the order of their keys. -/
def values (m : OrderedMap α β) : List β :=
  m.entries.map Prod.snd

/-- The number of entries. -/
def size (m : OrderedMap α β) : Nat :=
  m.entries.length

theorem ext_entries {m n : OrderedMap α β} (h : m.entries = n.entries) : m = n := by
  cases m; cases n; cases h; rfl

@[simp] theorem keys_empty : (empty : OrderedMap α β).keys = [] := rfl

variable [DecidableEq α]

/-- Entries with the value of one key replaced, or the key appended if it is new. -/
def upsert (k : α) (v : β) : List (α × β) → List (α × β)
  | [] => [(k, v)]
  | (k', v') :: rest => if k' = k then (k, v) :: rest else (k', v') :: upsert k v rest

theorem keys_upsert (k : α) (v : β) (es : List (α × β)) :
    (upsert k v es).map Prod.fst =
      if k ∈ es.map Prod.fst then es.map Prod.fst else es.map Prod.fst ++ [k] := by
  induction es with
  | nil => simp [upsert]
  | cons e rest ih =>
    obtain ⟨k', v'⟩ := e
    by_cases h : k' = k
    · simp [upsert, h]
    · have h' : ¬k = k' := fun e => h e.symm
      simp only [upsert, if_neg h, List.map_cons, ih, List.mem_cons, h', false_or]
      split <;> simp

theorem nodup_upsert {k : α} {v : β} {es : List (α × β)} (h : (es.map Prod.fst).Nodup) :
    ((upsert k v es).map Prod.fst).Nodup := by
  rw [keys_upsert]
  split
  · exact h
  · rename_i hk
    rw [List.nodup_append]
    refine ⟨h, by simp, ?_⟩
    intro a ha b hb hab
    simp only [List.mem_singleton] at hb
    exact hk (hb ▸ hab ▸ ha)

/-- Write a key: in its old place if it is present, else at the end. -/
def insert (m : OrderedMap α β) (k : α) (v : β) : OrderedMap α β where
  entries := upsert k v m.entries
  nodup := nodup_upsert m.nodup

/-- The value written last under a key. -/
def get? (m : OrderedMap α β) (k : α) : Option β :=
  m.entries.lookup k

/-- The key has been written. -/
def contains (m : OrderedMap α β) (k : α) : Bool :=
  m.keys.contains k

/-- Write the pairs one after another into the empty map. -/
def ofList (pairs : List (α × β)) : OrderedMap α β :=
  pairs.foldl (fun m p => m.insert p.1 p.2) empty

@[simp] theorem get?_empty (k : α) : (empty : OrderedMap α β).get? k = none := rfl

theorem keys_insert (m : OrderedMap α β) (k : α) (v : β) :
    (m.insert k v).keys = if k ∈ m.keys then m.keys else m.keys ++ [k] :=
  keys_upsert k v m.entries

theorem lookup_upsert (k k' : α) (v : β) (es : List (α × β)) :
    (upsert k v es).lookup k' = if k' = k then some v else es.lookup k' := by
  induction es with
  | nil =>
    by_cases h : k' = k
    · simp [upsert, h]
    · have : (k' == k) = false := by simpa using h
      simp [upsert, List.lookup_cons, h, this]
  | cons e rest ih =>
    obtain ⟨a, b⟩ := e
    by_cases ha : a = k
    · subst ha
      by_cases h : k' = a
      · simp [upsert, h]
      · have : (k' == a) = false := by simpa using h
        simp [upsert, List.lookup_cons, h, this]
    · by_cases h : k' = a
      · subst h
        have : ¬k' = k := ha
        simp [upsert, ha]
      · have : (k' == a) = false := by simpa using h
        simp [upsert, List.lookup_cons, ha, this, ih]

theorem get?_insert (m : OrderedMap α β) (k k' : α) (v : β) :
    (m.insert k v).get? k' = if k' = k then some v else m.get? k' :=
  lookup_upsert k k' v m.entries

end OrderedMap

end ServiceAtlas
