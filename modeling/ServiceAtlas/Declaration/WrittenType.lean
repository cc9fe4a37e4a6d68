/-
Types as they are written in a source text.

A written type is a simple name with the generic arguments behind it.  An array is marked
as such, carries its element as first argument and is named after it; a wildcard is named
by the question mark.
-/

namespace ServiceAtlas

/-- A type as written: its simple name, its generic arguments, and whether it is an array
whose element is the first argument. -/
inductive WrittenType where
  | mk (name : String) (args : List WrittenType) (isArray : Bool)

namespace WrittenType

/-- The simple name. -/
def name : WrittenType → String
  | mk n _ _ => n

/-- The generic arguments, or the element of an array. -/
def args : WrittenType → List WrittenType
  | mk _ as _ => as

/-- The type is an array. -/
def isArray : WrittenType → Bool
  | mk _ _ b => b

/-- A type without arguments. -/
def simple (name : String) : WrittenType :=
  mk name [] false

/-- The name of every wildcard. -/
def wildcardName : String := "?"

/-- The unbounded wildcard, which also stands for the bounded ones. -/
def wildcard : WrittenType :=
  simple wildcardName

/-- The array of a type, named after its element. -/
def arrayOf (element : WrittenType) : WrittenType :=
  mk element.name [element] true

/-- The array with several dimensions. -/
def arrayOfDepth (element : WrittenType) : Nat → WrittenType
  | 0 => element
  | n + 1 => arrayOf (arrayOfDepth element n)

/-- What a method without a result is written to return. -/
def void : WrittenType :=
  simple "void"

instance : Inhabited WrittenType := ⟨void⟩

end WrittenType

end ServiceAtlas
