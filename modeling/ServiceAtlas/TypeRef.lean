/-
Type references: the types that records and documents speak of.

A reference is a non-empty base name with arguments.  `ofWritten` turns a written type into
one: arrays become `Array` of their element, wildcard arguments are dropped, and everything
else keeps its name and the order of its arguments.  It fails only on trees that no source
text gives: an array without an element, or an empty name.
-/
import ServiceAtlas.Declaration.WrittenType
import ServiceAtlas.Text.Split

namespace ServiceAtlas

/-- A possibly generic type. -/
inductive TypeRef where
  | mk (base : String) (args : List TypeRef)

namespace TypeRef

/-- The base name. -/
def base : TypeRef → String
  | mk b _ => b

/-- The generic arguments. -/
def args : TypeRef → List TypeRef
  | mk _ as => as

instance : Inhabited TypeRef := ⟨mk "void" []⟩

/-- The base of every array. -/
def arrayBase : String := "Array"

mutual

/-- The type in the notation of generic types. -/
def text : TypeRef → String
  | mk base [] => base
  | mk base (a :: as) => base ++ "<" ++ text a ++ argsText as ++ ">"

/-- The arguments after the first, each behind a comma and a space. -/
def argsText : List TypeRef → String
  | [] => ""
  | a :: as => ", " ++ text a ++ argsText as

end

/-- Why a written type has no reference. -/
inductive Malformed where
  | missingElement
  | emptyName
  deriving DecidableEq

mutual

/-- The reference to a written type, or the first fault met when arguments are resolved
before the types they belong to. -/
def ofWritten : WrittenType → Except Malformed TypeRef
  | .mk _ [] true => .error .missingElement
  | .mk _ (element :: _) true =>
    match ofWritten element with
    | .error e => .error e
    | .ok r => .ok (mk arrayBase [r])
  | .mk name args false =>
    match ofWrittenArgs args with
    | .error e => .error e
    | .ok rs => if name.isEmpty then .error .emptyName else .ok (mk name rs)

/-- The references to generic arguments, wildcards left out. -/
def ofWrittenArgs : List WrittenType → Except Malformed (List TypeRef)
  | [] => .ok []
  | t :: ts =>
    match ofWritten t with
    | .error e => .error e
    | .ok r =>
      match ofWrittenArgs ts with
      | .error e => .error e
      | .ok rs => .ok (if r.base = WrittenType.wildcardName then rs else r :: rs)

end

end TypeRef

end ServiceAtlas
