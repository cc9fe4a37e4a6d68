/-
Declared types and their members.

These records are all that is known of a source text once it has been read: names, written
types, annotations, documentation and modifiers, each in source order.
-/
import ServiceAtlas.Declaration.WrittenType
import ServiceAtlas.Declaration.Mark
import ServiceAtlas.Declaration.Documentation

namespace ServiceAtlas

/-- A formal parameter. -/
structure Parameter where
  name : String
  type : WrittenType
  marks : List Mark
  deriving Inhabited

/-- A field. -/
structure Field where
  name : String
  type : WrittenType
  marks : List Mark
  documentation : Documentation
  modifiers : List String
  deriving Inhabited

namespace Field

/-- The field belongs to the type and not to its instances. -/
def isStatic (f : Field) : Bool :=
  f.modifiers.contains "static"

/-- The field cannot be assigned. -/
def isFinal (f : Field) : Bool :=
  f.modifiers.contains "final"

end Field

/-- A method. -/
structure Method where
  name : String
  returnType : WrittenType
  parameters : List Parameter
  marks : List Mark
  documentation : Documentation
  modifiers : List String
  deriving Inhabited

/-- A constructor. -/
structure Constructor where
  parameters : List Parameter
  marks : List Mark
  documentation : Documentation
  deriving Inhabited

/-- A constant of an enumeration. -/
structure EnumConstant where
  name : String
  documentation : Documentation
  marks : List Mark
  deriving Inhabited

/-- The kinds of declared types. -/
inductive TypeKind where
  | plainClass
  | interface
  | enumeration
  | record
  | annotationType
  deriving DecidableEq, Inhabited

/-- The keyword of a kind. -/
def TypeKind.word : TypeKind → String
  | plainClass => "class"
  | interface => "interface"
  | enumeration => "enum"
  | record => "record"
  | annotationType => "annotation"

/-- A declared type.  Its scope is the package followed by the names of the enclosing types,
joined with dots; modifiers are in ascending order and distinct. -/
structure Declaration where
  name : String
  scope : String
  kind : TypeKind
  marks : List Mark
  documentation : Documentation
  modifiers : List String
  superclass : Option WrittenType
  interfaces : List WrittenType
  fields : List Field
  constructors : List Constructor
  methods : List Method
  constants : List EnumConstant
  origin : String
  deriving Inhabited

/-- A name inside a scope, which may be empty. -/
def qualify (scope name : String) : String :=
  if scope.isEmpty then name else scope ++ "." ++ name

namespace Declaration

/-- A declaration that has a name, a kind and nothing else. -/
def bare (name scope : String) (kind : TypeKind) : Declaration where
  name := name
  scope := scope
  kind := kind
  marks := []
  documentation := .none
  modifiers := []
  superclass := none
  interfaces := []
  fields := []
  constructors := []
  methods := []
  constants := []
  origin := ""

/-- The name with its scope. -/
def qualifiedName (d : Declaration) : String :=
  qualify d.scope d.name

/-- The type has no instances of its own. -/
def isAbstract (d : Declaration) : Bool :=
  d.modifiers.contains "abstract"

end Declaration

/-- Modifiers in ascending order, each once. -/
def orderedModifiers (words : List String) : List String :=
  (words.mergeSort fun a b => decide (a ≤ b)).eraseReps

end ServiceAtlas
