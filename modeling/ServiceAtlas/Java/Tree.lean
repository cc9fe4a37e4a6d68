/-
Trees of Java compilation units.

A tree keeps what declarations are made of, in source order: names as they are written,
types, annotations with the source text of their arguments, modifiers, and for every
declaration the comments directly before it.  Method bodies and initializers are not kept,
nor is anything declared inside them.
-/
import ServiceAtlas.Declaration

namespace ServiceAtlas.Java

/-- A type.  Names are as written, blanks and comments included. -/
inductive TypeTree where
  | named (name : String)
  | generic (name : String) (args : List TypeTree)
  | wildcard
  | bounded (upper : Bool) (bound : TypeTree)
  | array (element : TypeTree) (dimensions : Nat)

/-- An argument of an annotation: a value, or a value for a key. -/
inductive ArgumentTree where
  | value (text : String)
  | pair (key text : String)
  deriving DecidableEq

/-- An annotation. -/
structure MarkTree where
  name : String
  arguments : List ArgumentTree
  deriving DecidableEq

/-- A modifier word or an annotation among the modifiers. -/
inductive ModifierTree where
  | word (text : String)
  | mark (m : MarkTree)
  deriving DecidableEq

/-- A formal parameter or a record component.  Dimensions may follow the name, and three
dots the type. -/
structure ParameterTree where
  modifiers : List ModifierTree
  type : TypeTree
  variadic : Bool
  name : String
  dimensions : Nat

/-- One of the variables declared together. -/
structure Declarator where
  name : String
  dimensions : Nat
  deriving DecidableEq

/-- Variables declared together; `shared` where the type that declares them makes them
constants. -/
structure FieldTree where
  comments : List String
  modifiers : List ModifierTree
  type : TypeTree
  declarators : List Declarator
  shared : Bool

/-- A method. -/
structure MethodTree where
  comments : List String
  modifiers : List ModifierTree
  result : TypeTree
  name : String
  parameters : List ParameterTree

/-- A constructor. -/
structure ConstructorTree where
  comments : List String
  modifiers : List ModifierTree
  parameters : List ParameterTree

/-- A constant of an enumeration. -/
structure ConstantTree where
  comments : List String
  modifiers : List ModifierTree
  name : String

/-- A type declaration without its body. -/
structure Head where
  comments : List String
  modifiers : List ModifierTree
  kind : TypeKind
  name : String
  superclass : Option TypeTree
  interfaces : List TypeTree
  components : List ParameterTree

/-- A member of a body or of a compilation unit.  What declares nothing is `other`.  The
members of a type stand in its body; those of an enumeration may go on behind its constants,
in a part of the body that is kept apart. -/
inductive Member where
  | type (head : Head) (body behind : List Member)
  | field (f : FieldTree)
  | method (m : MethodTree)
  | constructor (c : ConstructorTree)
  | constant (c : ConstantTree)
  | other

/-- A compilation unit: its package name as written, and its members. -/
structure CompilationUnit where
  package : String
  members : List Member

end ServiceAtlas.Java
