/-
Values of YAML documents.

A mapping is a list of entries with different keys; of entries with one key the first place
and the last value count.  The entries that a merge key brings in stand in front of the
mapping's own, so the own ones win.

A tag that belongs to scalars may stand on a mapping, which then has to have a key that is
marked as its value.
-/
import ServiceAtlas.Yaml.Atom
import ServiceAtlas.Yaml.Node

namespace ServiceAtlas.Yaml

/-- A value.  `endless` stands for a collection within itself. -/
inductive Value where
  | atom (a : Atom)
  | list (items : List Value)
  | map (entries : List (Atom × Value))
  | endless

namespace Value

instance : Inhabited Value := ⟨endless⟩

/-- An entry, and the entries that it may be one of: it replaces the value under its key. -/
def addEntry (entries : List (Atom × Value)) (e : Atom × Value) : List (Atom × Value) :=
  if entries.any fun f => f.1.sameKey e.1 then
    entries.map fun f => if f.1.sameKey e.1 then (f.1, e.2) else f
  else entries ++ [e]

/-- Entries with different keys. -/
def distinct (entries : List (Atom × Value)) : List (Atom × Value) :=
  entries.foldl addEntry []

/-! ### Nodes -/

/-- The kind of a node. -/
def kindOf : Node → Kind
  | .scalar tag form text => Kind.ofScalar tag form text
  | .sequence tag _ => (tag.map Kind.ofTag).getD .list
  | .mapping tag _ => (tag.map Kind.ofTag).getD .map
  | .endless => .map

/-- The key brings the entries of its value into the mapping. -/
def isMerge (n : Node) : Bool :=
  kindOf n = .merge

mutual

/-- The scalar that stands for a node: a mapping has one under its first key that is marked as
the value of the mapping. -/
def scalar : Node → Except Fault (ScalarForm × String)
  | .scalar _ form text => .ok (form, text)
  | .sequence .. => .error .malformed
  | .mapping _ entries => scalarIn entries
  | .endless => .error .endless

/-- The scalar that stands for a mapping with the entries. -/
def scalarIn : List (Node × Node) → Except Fault (ScalarForm × String)
  | [] => .error .malformed
  | (k, v) :: es => if kindOf k = .value then scalar v else scalarIn es

end

/-- The atom of a kind that a node is. -/
def atomOf (kind : Kind) (n : Node) : Except Fault Atom :=
  if !kind.isAtomic then .error .malformed
  else do
    let (form, text) ← scalar n
    match kind, n with
    | .moment, .mapping .. => throw .dateOfMapping
    | _, _ => Atom.ofText kind form text

/-- The atom that a key is; one that is marked as the value of its mapping counts as text. -/
def key (n : Node) : Except Fault Atom :=
  atomOf (if kindOf n = .value then .text else kindOf n) n

/-! ### The order of faults -/

/-- A fault, and how many collections it is within. -/
structure Misstep where
  depth : Nat
  fault : Fault

/-- What nodes come to.  Collections are filled one after another and those further out first,
so of several faults the outermost one is met, and of those the first. -/
abbrev Built (α : Type) := Except Misstep α

namespace Built

variable {α β γ : Type}

/-- A result that needs no collection to be filled. -/
def now (r : Except Fault α) : Built α :=
  r.mapError (Misstep.mk 0)

/-- A result that needs the collection around it to be filled. -/
def inside (r : Built α) : Built α :=
  r.mapError fun m => { m with depth := m.depth + 1 }

/-- Two results, the second behind the first. -/
def both (f : α → β → γ) : Built α → Built β → Built γ
  | .ok a, .ok b => .ok (f a b)
  | .ok _, .error m => .error m
  | .error m, .ok _ => .error m
  | .error m, .error m' => .error (if m'.depth < m.depth then m' else m)

/-- A node cannot be of the kind.  If the kind is that of a collection, this is found out when
the collection is filled. -/
def misfit (kind : Kind) : Built α :=
  .error ⟨if kind.isCollection then 1 else 0, .malformed⟩

end Built

/-! ### Merging -/

mutual

/-- The values of all merge keys among the entries can be merged. -/
def canMerge : List (Node × Node) → Bool
  | [] => true
  | (k, v) :: es => (!isMerge k || isMergeable v) && canMerge es

/-- The value of a merge key can be merged: it is a mapping or a list of mappings. -/
def isMergeable : Node → Bool
  | .scalar .. => false
  | .sequence _ items => areMergeable items
  | .mapping _ entries => canMerge entries
  | .endless => true

/-- All of the nodes are mappings that can be merged. -/
def areMergeable : List Node → Bool
  | [] => true
  | .mapping _ entries :: ns => canMerge entries && areMergeable ns
  | .endless :: ns => areMergeable ns
  | _ :: _ => false

end

/-! ### Values -/

/-- Entries with their keys. -/
abbrev Entries := List (Atom × Value)

mutual

/-- The value of a node. -/
def ofNode : Node → Built Value
  | .endless => .ok endless
  | .scalar tag form text =>
    let kind := Kind.ofScalar tag form text
    if kind.isCollection then .misfit kind
    else atom <$> .now (atomOf kind (.scalar tag form text))
  | .sequence tag items =>
    match kindOf (.sequence tag items) with
    | .list => list <$> .inside (ofItems items)
    | .pairs => list <$> .inside (ofPairs items)
    | kind => .misfit kind
  | .mapping tag entries =>
    let filled : Built Entries :=
      if canMerge entries then .both (· ++ ·) (mergedInto entries) (ownOf entries)
      else .error ⟨0, .malformed⟩
    match kindOf (.mapping tag entries) with
    | .map => (fun es => map (distinct es)) <$> .inside filled
    | .set => (fun es => list ((distinct es).map fun e => atom e.1)) <$> .inside filled
    | kind =>
      if kind.isCollection then .misfit kind
      else atom <$> .now (atomOf kind (.mapping tag entries))

/-- The values of nodes. -/
def ofItems : List Node → Built (List Value)
  | [] => .ok []
  | n :: ns => .both (· :: ·) (ofNode n) (ofItems ns)

/-- The pairs that mappings with one entry each are. -/
def ofPairs : List Node → Built (List Value)
  | [] => .ok []
  | .mapping _ [(k, v)] :: ns =>
    .both (· :: ·) (.both (fun k v => list [k, v]) (ofNode k) (ofNode v)) (ofPairs ns)
  | _ :: _ => .error ⟨0, .malformed⟩

/-- The entries of a mapping that are its own. -/
def ownOf : List (Node × Node) → Built Entries
  | [] => .ok []
  | (k, v) :: es =>
    if isMerge k then ownOf es
    else .both (· :: ·) (.both Prod.mk (.now (key k)) (ofNode v)) (ownOf es)

/-- The entries that the merge keys of a mapping bring in. -/
def mergedInto : List (Node × Node) → Built Entries
  | [] => .ok []
  | (k, v) :: es =>
    if isMerge k then .both (· ++ ·) (merged v) (mergedInto es) else mergedInto es

/-- The entries that the value of a merge key brings in. -/
def merged : Node → Built Entries
  | .mapping _ entries => .both (· ++ ·) (mergedInto entries) (ownOf entries)
  | .sequence _ items => mergedAll items
  | _ => .ok []

/-- The entries that several mappings bring in, those of the first one last. -/
def mergedAll : List Node → Built Entries
  | [] => .ok []
  | .mapping _ entries :: ns =>
    .both (· ++ ·) (mergedAll ns) (.both (· ++ ·) (mergedInto entries) (ownOf entries))
  | _ :: ns => mergedAll ns

end

/-- The value of a text; a text without a document is null. -/
def ofText (text : List Char) : Except Fault Value := do
  match ← Node.ofText text with
  | none => return atom .null
  | some n => (ofNode n).mapError Misstep.fault

/-- What a value looks like from outside. -/
def look : Value → View Value
  | atom .null => .null
  | atom (.bool b) => .bool b
  | atom (.int n) => .int n
  | atom (.float x) => .float x
  | atom (.text s) => .text s
  | atom .garbled => .garbled
  | atom (.bytes bs) =>
    match Utf8.decode bs with
    | .ok text => .text (String.ofList text)
    | .error _ => .garbled
  | atom (.moment _) => .other
  | list items => .items items
  | map entries => .entries (entries.map fun e => (e.1.toKey, e.2))
  | endless => .other

instance : HasView Value := ⟨look⟩

end Value

/-- A way to read texts, of which `Value.ofText` is one. -/
abbrev Reader := List Char → Except Fault Value

end ServiceAtlas.Yaml
