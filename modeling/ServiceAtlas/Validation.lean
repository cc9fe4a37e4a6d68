/-
Checking untyped data against the shape of a record.

A check reads a value and either yields what it stands for or lists every fault with the
path to it.  Checks of several members are combined so that the faults of all of them are
kept, in the order of the checks.  What a value looks like is told by `HasView`, so data
from different formats is checked by the same rules.
-/
import ServiceAtlas.Decimal.Binary64

namespace ServiceAtlas

/-- One step of the path to a fault: a member name or a position. -/
inductive Step where
  | name (s : String)
  | index (i : Int)
  deriving DecidableEq

/-- The kinds of faults. -/
inductive FaultKind where
  | stringType
  | stringTooShort
  | stringEncoding
  | boolType
  | boolParsing
  | missing
  | extraForbidden
  | notMember
  | tupleType
  | listType
  | dictType
  | modelType
  | invalidKey
  deriving DecidableEq

/-- A fault and the path to it. -/
structure Fault where
  path : List Step
  kind : FaultKind
  deriving DecidableEq

/-- The outcome of a check. -/
inductive Checked (α : Type) where
  | valid (a : α)
  | invalid (faults : List Fault)

namespace Checked

/-- A single fault at the value itself. -/
def fault {α : Type} (kind : FaultKind) : Checked α :=
  invalid [⟨[], kind⟩]

/-- The faults of a check. -/
def faults {α : Type} : Checked α → List Fault
  | valid _ => []
  | invalid fs => fs

/-- Apply a checked function to a checked argument, keeping the faults of both. -/
def both {α β : Type} : Checked (α → β) → Checked α → Checked β
  | valid f, valid a => valid (f a)
  | f, a => invalid (f.faults ++ a.faults)

instance : Applicative Checked where
  pure := valid
  seq f a := both f (a ())

/-- Go on with the value of a check that found no fault. -/
def andThen {α β : Type} : Checked α → (α → Checked β) → Checked β
  | valid a, f => f a
  | invalid fs, _ => invalid fs

/-- The same faults one step further from the root. -/
def under {α : Type} (step : Step) : Checked α → Checked α
  | valid a => valid a
  | invalid fs => invalid (fs.map fun f => { f with path := step :: f.path })

end Checked

/-- The key of an entry: text, an integer, or anything else by its printed form. -/
inductive Key where
  | text (s : String)
  | number (n : Int)
  | shown (s : String)
  deriving DecidableEq

/-- The step that a key makes. -/
def Key.step : Key → Step
  | text s => .name s
  | number n => .index n
  | shown s => .name s

/-- What a value of some data format looks like from outside. -/
inductive View (α : Type) where
  | null
  | bool (b : Bool)
  | int (n : Int)
  | float (x : Binary64)
  | text (s : String)
  | garbled
  | items (xs : List α)
  | entries (es : List (Key × α))
  | other

/-- A data format whose values can be looked at. -/
class HasView (α : Type) where
  view : α → View α

namespace Check

variable {α β : Type} [HasView α]

/-- A string. -/
def text (v : α) : Checked String :=
  match HasView.view v with
  | .text s => .valid s
  | .garbled => .fault .stringEncoding
  | _ => .fault .stringType

/-- The words that stand for true and for false, in lower case. -/
def flagWords : List (String × Bool) :=
  [("0", false), ("off", false), ("f", false), ("false", false), ("n", false), ("no", false),
    ("1", true), ("on", true), ("t", true), ("true", true), ("y", true), ("yes", true)]

/-- A truth value, or a number or a word that stands for one. -/
def flag (v : α) : Checked Bool :=
  match HasView.view v with
  | .bool b => .valid b
  | .int n => if n = 0 then .valid false else if n = 1 then .valid true else .fault .boolParsing
  | .float x =>
    if x.toInt? = some 0 then .valid false
    else if x.toInt? = some 1 then .valid true
    else .fault .boolParsing
  | .text s =>
    match flagWords.lookup (String.ofList (s.toList.map Char.toLower)) with
    | some b => .valid b
    | none => .fault .boolParsing
  | _ => .fault .boolType

/-- One of the values that have a name. -/
def oneOf (table : List (String × β)) (v : α) : Checked β :=
  match HasView.view v with
  | .text s =>
    match table.lookup s with
    | some b => .valid b
    | none => .fault .notMember
  | _ => .fault .notMember

/-- Null, or what the check accepts. -/
def optional (check : α → Checked β) (v : α) : Checked (Option β) :=
  match HasView.view v with
  | .null => .valid none
  | _ => some <$> check v

/-- Items in order, numbered from the given position. -/
def itemsFrom (check : α → Checked β) : Nat → List α → Checked (List β)
  | _, [] => .valid []
  | i, v :: vs => List.cons <$> (check v).under (.index i) <*> itemsFrom check (i + 1) vs

/-- A list; `kind` is the fault of anything else. -/
def listOf (kind : FaultKind) (check : α → Checked β) (v : α) : Checked (List β) :=
  match HasView.view v with
  | .items vs => itemsFrom check 0 vs
  | _ => .fault kind

/-- The entries of a record. -/
def record (v : α) : Checked (List (Key × α)) :=
  match HasView.view v with
  | .entries es => .valid es
  | _ => .fault .modelType

/-- The value under a key. -/
def lookup (name : String) : List (Key × α) → Option α
  | [] => none
  | (k, v) :: rest => if k = .text name then some v else lookup name rest

/-- The first of several names that is a key, and its value. -/
def firstOf (es : List (Key × α)) : List String → Option (String × α)
  | [] => none
  | name :: names =>
    match lookup name es with
    | some v => some (name, v)
    | none => firstOf es names

/-- A member that has to be present under one of its names. -/
def member (names : List String) (check : α → Checked β) (es : List (Key × α)) : Checked β :=
  match firstOf es names with
  | some (name, v) => (check v).under (.name name)
  | none => .invalid [⟨[.name (names.headD "")], .missing⟩]

/-- A member that has a default. -/
def memberOr (default : β) (names : List String) (check : α → Checked β)
    (es : List (Key × α)) : Checked β :=
  match firstOf es names with
  | some (name, v) => (check v).under (.name name)
  | none => .valid default

/-- The faults of the keys that are none of the names. -/
def extras (names : List String) : List (Key × α) → List Fault
  | [] => []
  | (k, _) :: rest =>
    match k with
    | .text s =>
      if names.contains s then extras names rest
      else ⟨[.name s], .extraForbidden⟩ :: extras names rest
    | k => ⟨[k.step], .invalidKey⟩ :: extras names rest

/-- A check of a record that refuses all keys but the given ones. -/
def closed (names : List String) (check : List (Key × α) → Checked β) (v : α) : Checked β :=
  (record v).andThen fun es =>
    match check es, extras names es with
    | .valid b, [] => .valid b
    | c, fs => .invalid (c.faults ++ fs)

end Check

end ServiceAtlas
