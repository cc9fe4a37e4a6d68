/-
JSON values.

Integers are exact and apart from floating point numbers, and the members of an object keep
their order.
-/
import ServiceAtlas.Decimal.Binary64
import ServiceAtlas.OrderedMap

namespace ServiceAtlas

/-- A JSON value. -/
inductive Json where
  | null
  | bool (b : Bool)
  | int (n : Int)
  | float (x : Binary64)
  | str (s : String)
  | arr (items : List Json)
  | obj (members : List (String × Json))

namespace Json

instance : Inhabited Json := ⟨null⟩

/-- Absent is null. -/
def ofOption {α : Type} (f : α → Json) : Option α → Json
  | none => null
  | some a => f a

/-- A list of strings. -/
def strings (ss : List String) : Json :=
  arr (ss.map str)

/-- The members of a map in its order. -/
def ofMap {α : Type} (f : α → Json) (m : OrderedMap String α) : Json :=
  obj (m.entries.map fun e => (e.1, f e.2))

/-- The value of the first member with the name. -/
def member? (name : String) : List (String × Json) → Option Json
  | [] => none
  | (n, v) :: rest => if n = name then some v else member? name rest

/-- The value of a member of an object. -/
def get? (v : Json) (name : String) : Option Json :=
  match v with
  | .obj members => member? name members
  | _ => none

end Json

end ServiceAtlas
