/-
Declarations from Java trees.

Member types are returned flat, each directly before the types declared in it; their scope
is the package followed by the names of the enclosing types.
-/
import ServiceAtlas.Java.Tree
import ServiceAtlas.Javadoc

namespace ServiceAtlas.Java

open ServiceAtlas.Text

/-- A name without the blanks in it. -/
def compactName (name : String) : List Char :=
  name.toList.filter fun c => !isBlank c

/-- The last part of a name as written. -/
def simpleName (name : String) : String :=
  String.ofList (afterLast '.' (compactName name))

namespace TypeTree

mutual

/-- The written type of a tree; bounds of wildcards are dropped. -/
def written : TypeTree → WrittenType
  | named name => .simple (simpleName name)
  | generic name args => .mk (simpleName name) (writtenAll args) false
  | wildcard => .wildcard
  | bounded _ _ => .wildcard
  | array element dimensions => .arrayOfDepth (written element) dimensions

/-- The written types of trees, in order. -/
def writtenAll : List TypeTree → List WrittenType
  | [] => []
  | t :: ts => written t :: writtenAll ts

end

end TypeTree

/-- The key of an argument without one. -/
def soleKey : String := "value"

/-- Attributes with one more argument. -/
def addArgument (attributes : OrderedMap String String) : ArgumentTree → OrderedMap String String
  | .value text => attributes.insert soleKey text
  | .pair key text => attributes.insert key text

/-- The annotation of a tree, under its simple name. -/
def MarkTree.toMark (m : MarkTree) : Mark where
  name := simpleName m.name
  attributes := m.arguments.foldl addArgument ∅

/-- The annotations among modifiers. -/
def marksOf (modifiers : List ModifierTree) : List Mark :=
  modifiers.filterMap fun
    | .mark m => some m.toMark
    | .word _ => none

/-- The words among modifiers. -/
def wordsOf (modifiers : List ModifierTree) : List String :=
  modifiers.filterMap fun
    | .mark _ => none
    | .word w => some w

/-- The parameter of a tree; a variadic one is an array. -/
def ParameterTree.toParameter (p : ParameterTree) : Parameter where
  name := p.name
  type :=
    if p.variadic then .arrayOf p.type.written else .arrayOfDepth p.type.written p.dimensions
  marks := marksOf p.modifiers

/-- The field of a record component. -/
def ParameterTree.toField (p : ParameterTree) : Field where
  name := p.toParameter.name
  type := p.toParameter.type
  marks := p.toParameter.marks
  documentation := .none
  modifiers := []

/-- What constants of an interface are without saying so. -/
def constantWords : List String :=
  ["static", "final"]

/-- The fields declared together. -/
def FieldTree.toFields (f : FieldTree) : List Field :=
  f.declarators.map fun d =>
    { name := d.name
      type := .arrayOfDepth f.type.written d.dimensions
      marks := marksOf f.modifiers
      documentation := Javadoc.nearest f.comments
      modifiers :=
        orderedModifiers (wordsOf f.modifiers ++ if f.shared then constantWords else []) }

/-- The method of a tree. -/
def MethodTree.toMethod (m : MethodTree) : Method where
  name := m.name
  returnType := m.result.written
  parameters := m.parameters.map ParameterTree.toParameter
  marks := marksOf m.modifiers
  documentation := Javadoc.nearest m.comments
  modifiers := orderedModifiers (wordsOf m.modifiers)

/-- The constructor of a tree. -/
def ConstructorTree.toConstructor (c : ConstructorTree) : Constructor where
  parameters := c.parameters.map ParameterTree.toParameter
  marks := marksOf c.modifiers
  documentation := Javadoc.nearest c.comments

/-- The constant of a tree. -/
def ConstantTree.toConstant (c : ConstantTree) : EnumConstant where
  name := c.name
  documentation := Javadoc.nearest c.comments
  marks := marksOf c.modifiers

namespace Member

/-- The fields that a member declares. -/
def fields : Member → List Field
  | field f => f.toFields
  | _ => []

/-- The method that a member declares. -/
def method? : Member → Option Method
  | method m => some m.toMethod
  | _ => none

/-- The constructor that a member declares. -/
def constructor? : Member → Option Constructor
  | constructor c => some c.toConstructor
  | _ => none

/-- The constant that a member declares. -/
def constant? : Member → Option EnumConstant
  | constant c => some c.toConstant
  | _ => none

end Member

/-- The declaration of a type with the given head and members. -/
def Head.toDeclaration (head : Head) (members : List Member) (scope origin : String) :
    Declaration where
  name := head.name
  scope := scope
  kind := head.kind
  marks := marksOf head.modifiers
  documentation := Javadoc.nearest head.comments
  modifiers := orderedModifiers (wordsOf head.modifiers)
  superclass := head.superclass.map TypeTree.written
  interfaces := head.interfaces.map TypeTree.written
  fields := head.components.map ParameterTree.toField ++ members.flatMap Member.fields
  constructors := members.filterMap Member.constructor?
  methods := members.filterMap Member.method?
  constants := members.filterMap Member.constant?
  origin := origin

mutual

/-- The declarations of a member: its own type, then those declared in it. -/
def Member.declarations (scope origin : String) : Member → List Declaration
  | .type head body behind =>
    head.toDeclaration (body ++ behind) scope origin
      :: (declarationsOf (qualify scope head.name) origin body
        ++ declarationsOf (qualify scope head.name) origin behind)
  | .field _ => []
  | .method _ => []
  | .constructor _ => []
  | .constant _ => []
  | .other => []

/-- The declarations of members, in order. -/
def declarationsOf (scope origin : String) : List Member → List Declaration
  | [] => []
  | m :: ms => Member.declarations scope origin m ++ declarationsOf scope origin ms

end

namespace CompilationUnit

/-- The package name without the blanks in it. -/
def packageName (u : CompilationUnit) : String :=
  String.ofList (compactName u.package)

/-- The declarations of a compilation unit. -/
def declarations (u : CompilationUnit) (origin : String) : List Declaration :=
  declarationsOf u.packageName origin u.members

end CompilationUnit

end ServiceAtlas.Java
