/-
Java source texts with types in any place.

Here a keyword of some places only is an identifier in the others, as Java has it.  Members stand
in any order, types are declared in types, and there are records and annotation types.  Types,
methods and constructors may have type parameters.  A unit has imports and any number of types.
The written declarations with their canonical order are among these, and the readers are followed
through this wider syntax once for both.
-/
import ServiceAtlas.Proofs.Java.Matching

namespace ServiceAtlas.Java.Grammar

open Written (Modifier documentationOf dimensionPieces boundPiece)

/-! ### Identifiers -/

/-- The words that are keywords wherever they stand, and the literals among words. -/
def keywords : List String :=
  ["abstract", "assert", "boolean", "break", "byte", "case", "catch", "char", "class", "const",
    "continue", "default", "do", "double", "else", "enum", "extends", "final", "finally",
    "float", "for", "goto", "if", "implements", "import", "instanceof", "int", "interface",
    "long", "native", "new", "package", "private", "protected", "public", "return", "short",
    "static", "strictfp", "super", "switch", "synchronized", "this", "throw", "throws",
    "transient", "try", "void", "volatile", "while", "_", "true", "false", "null"]

/-- The identifiers that name no type. -/
def untypedWords : List String :=
  ["permits", "record", "sealed", "var", "yield"]

/-- An identifier. -/
structure Identifier where
  text : String
  admits : isName text.toList = true
  isFree : text ∉ keywords

namespace Identifier

/-- The token that an identifier is. -/
abbrev lexeme (n : Identifier) : Lexeme :=
  .word n.text n.admits

/-- An identifier as a piece. -/
abbrev piece (n : Identifier) : Piece :=
  .word n.text n.admits

theorem ne_of_mem (n : Identifier) {w : String} (h : w ∈ keywords) : n.text ≠ w :=
  fun heq => n.isFree (heq ▸ h)

/-- A name that is no keyword of any kind is an identifier. -/
def ofName (n : Written.Name) : Identifier where
  text := n.text
  admits := n.admits
  isFree := fun h => by
    have hreserved : ∀ w ∈ keywords, w ∈ Written.reservedWords := by decide
    exact n.isFree (hreserved _ h)

end Identifier

/-- An identifier and those that qualify it. -/
structure Path where
  qualifier : List Identifier
  name : Identifier

namespace Path

/-- The pieces of a path, given part by part. -/
def piecesOf (name : Identifier) : List Identifier → List Piece
  | [] => [name.piece]
  | q :: qs => q.piece :: .of .dot :: piecesOf name qs

/-- A path as it is written. -/
def pieces (p : Path) : List Piece :=
  piecesOf p.name p.qualifier

/-- The identifiers joined with dots. -/
def text (p : Path) : String :=
  Text.joined "." (p.qualifier.map Identifier.text ++ [p.name.text])

/-- A qualified name is a path. -/
def ofQualified (q : Written.Qualified) : Path :=
  ⟨q.qualifier.map .ofName, .ofName q.name⟩

theorem pieces_ofQualified (q : Written.Qualified) : (ofQualified q).pieces = q.pieces := by
  obtain ⟨qs, name⟩ := q
  induction qs with
  | nil => rfl
  | cons q qs ih => exact congrArg (fun ps => q.piece :: Piece.of .dot :: ps) ih

theorem text_ofQualified (q : Written.Qualified) : (ofQualified q).text = q.text := by
  rw [text, ofQualified, List.map_map]
  rfl

end Path

/-- The name of a type, which may be qualified. -/
structure TypeName extends Path where
  isTyped : name.text ∉ untypedWords

/-! ### Types -/

mutual

/-- A primitive or a reference type, and the number of its dimensions.  The name of a
reference type may be qualified and generic. -/
inductive TypeUse where
  | primitive (w : String) (h : w ∈ SyntaxCheck.primitiveWords) (dimensions : Nat)
  | reference (name : TypeName) (arguments : List TypeArgument) (dimensions : Nat)

/-- A wildcard, with or without a bound, or a type. -/
inductive TypeArgument where
  | wildcard
  | bounded (upper : Bool) (bound : TypeUse)
  | type (t : TypeUse)

end

mutual

/-- The pieces of a type. -/
def TypeUse.pieces : TypeUse → List Piece
  | .primitive w h dimensions =>
    .word w (Written.isName_primitiveWords w h) :: dimensionPieces dimensions
  | .reference name arguments dimensions =>
    name.pieces ++ (argumentPieces arguments ++ dimensionPieces dimensions)

/-- The pieces of a type argument. -/
def TypeArgument.pieces : TypeArgument → List Piece
  | .wildcard => [.of .question]
  | .bounded upper bound => .of .question :: boundPiece upper :: bound.pieces
  | .type t => t.pieces

/-- The pieces of type arguments in angle brackets; none are written without brackets. -/
def argumentPieces : List TypeArgument → List Piece
  | [] => []
  | a :: as => .of .less :: (a.pieces ++ furtherArgumentPieces as)

/-- The pieces behind a type argument, up to the closing bracket. -/
def furtherArgumentPieces : List TypeArgument → List Piece
  | [] => [.of .greater]
  | a :: as => .of .comma :: (a.pieces ++ furtherArgumentPieces as)

end

mutual

/-- The type that is meant. -/
def TypeUse.written : TypeUse → WrittenType
  | .primitive w _ dimensions => .arrayOfDepth (.simple w) dimensions
  | .reference name arguments dimensions =>
    .arrayOfDepth (.mk name.name.text (writtenArguments arguments) false) dimensions

/-- The type argument that is meant; bounds are not kept. -/
def TypeArgument.written : TypeArgument → WrittenType
  | .wildcard => .wildcard
  | .bounded _ _ => .wildcard
  | .type t => t.written

/-- The type arguments that are meant. -/
def writtenArguments : List TypeArgument → List WrittenType
  | [] => []
  | a :: as => a.written :: writtenArguments as

end

/-! ### Type parameters -/

/-- The keywords of members and of types. -/
def headWords : List String :=
  ["void", "throws", "default", "class", "interface", "enum", "record", "extends", "implements"]

theorem isName_headWords : ∀ w ∈ headWords, isName w.toList = true := by
  decide

/-- A keyword of a member or a type as a piece. -/
abbrev headPiece (w : String) (h : w ∈ headWords) : Piece :=
  .word w (isName_headWords w h)

/-- A type parameter with the types that bound it. -/
structure TypeParameter where
  name : Identifier
  bounds : List TypeUse

namespace TypeParameter

/-- The pieces of the bounds, if there are any. -/
def boundPieces : List TypeUse → List Piece
  | [] => []
  | ts => headPiece "extends" (by decide) :: separated (.of .ampersand) (ts.map TypeUse.pieces)

/-- The pieces of a type parameter. -/
def pieces (p : TypeParameter) : List Piece :=
  p.name.piece :: boundPieces p.bounds

end TypeParameter

/-- The pieces of type parameters in angle brackets; none are written without brackets. -/
def typeParameterPieces : List TypeParameter → List Piece
  | [] => []
  | ps => .of .less :: (separated (.of .comma) (ps.map TypeParameter.pieces) ++ [.of .greater])

/-! ### Members -/

/-- The modifier is one of the words about sealing, which are modifiers in front of a word or an
annotation only. -/
def isSealing : Modifier → Bool
  | .sealed => true
  | .unsealed => true
  | _ => false

/-- A formal parameter.  It may have dimensions behind its name, or three dots in front of it. -/
structure Parameter where
  modifiers : List Modifier
  type : TypeUse
  name : Identifier
  dimensions : Option Nat

namespace Parameter

/-- The pieces of the name and what belongs to it. -/
def namePieces (p : Parameter) : List Piece :=
  match p.dimensions with
  | some n => p.name.piece :: dimensionPieces n
  | none => [Written.Parameter.dotsPiece, p.name.piece]

/-- The pieces of a parameter. -/
def pieces (p : Parameter) : List Piece :=
  Modifier.allPieces p.modifiers ++ (p.type.pieces ++ p.namePieces)

/-- The type of a parameter: dimensions behind its name and three dots add to it. -/
def writtenType (p : Parameter) : WrittenType :=
  match p.dimensions with
  | some n => .arrayOfDepth p.type.written n
  | none => .arrayOf p.type.written

/-- The parameter declared. -/
def declared (p : Parameter) : ServiceAtlas.Parameter where
  name := p.name.text
  type := p.writtenType
  marks := Modifier.marks p.modifiers

/-- The field that a component of a record declares. -/
def component (p : Parameter) : ServiceAtlas.Field where
  name := p.name.text
  type := p.writtenType
  marks := Modifier.marks p.modifiers
  documentation := .none
  modifiers := []

end Parameter

/-- The pieces of parameters in parentheses. -/
def parameterPieces (ps : List Parameter) : List Piece :=
  .of .openParen ::
    (separated (.of .comma) (ps.map Parameter.pieces) ++ [.of .closeParen])

/-- An expression of which no more is known than that brackets match in it, and that outside
them it has no comma or semicolon, and no angle bracket but those of type arguments. -/
structure Expression where
  pieces : List Piece
  isClosed : ClosedPieces pieces

/-- A variable with its dimensions and the value it may begin with. -/
structure Variable where
  name : Identifier
  dimensions : Nat
  initial : Option Expression

/-- The pieces of an initial value. -/
def initialPieces : Option Expression → List Piece
  | none => []
  | some e => .of .equals :: e.pieces

/-- The pieces of a variable. -/
def Variable.pieces (v : Variable) : List Piece :=
  v.name.piece :: (dimensionPieces v.dimensions ++ initialPieces v.initial)

/-- Variables declared together. -/
structure Field where
  comment : Option DocComment
  modifiers : List Modifier
  type : TypeUse
  first : Variable
  others : List Variable

namespace Field

/-- All of the variables. -/
def declarators (f : Field) : List Variable :=
  f.first :: f.others

/-- The pieces of a field behind its modifiers. -/
def plainPieces (f : Field) : List Piece :=
  f.type.pieces ++ (separated (.of .comma) (f.declarators.map Variable.pieces) ++ [.of .semicolon])

/-- The fields of such a type are constants. -/
def sharesFields (kind : TypeKind) : Bool :=
  kind = .interface || kind = .annotationType

/-- The fields declared in a type of the given kind. -/
def declared (kind : TypeKind) (f : Field) : List ServiceAtlas.Field :=
  f.declarators.map fun v =>
    { name := v.name.text
      type := .arrayOfDepth f.type.written v.dimensions
      marks := Modifier.marks f.modifiers
      documentation := documentationOf f.comment
      modifiers := orderedModifiers
        (Modifier.words f.modifiers ++ if sharesFields kind then constantWords else []) }

end Field

/-- The body of a constructor or a method, of which no more is known than where it ends. -/
structure Block where
  inner : List Piece
  isMatched : Matching '\x7b' '\x7d' inner

namespace Block

/-- The body without statements. -/
def empty : Block :=
  ⟨[], .nil⟩

/-- The pieces of a body. -/
def pieces (b : Block) : List Piece :=
  .of .openBrace :: (b.inner ++ [.of .closeBrace])

end Block

/-- The pieces of the exceptions that are declared to be thrown. -/
def thrownPieces : List Path → List Piece
  | [] => []
  | ps => headPiece "throws" (by decide) :: separated (.of .comma) (ps.map Path.pieces)

/-- A constructor.  It has the name of its type. -/
structure Constructor where
  comment : Option DocComment
  modifiers : List Modifier
  typeParameters : List TypeParameter
  isUnsealed : typeParameters = [] ∨ ∀ m ∈ modifiers, isSealing m = false
  name : Identifier
  parameters : List Parameter
  thrown : List Path
  body : Block

namespace Constructor

/-- The pieces of a constructor from its name on. -/
def signaturePieces (c : Constructor) : List Piece :=
  c.name.piece :: (parameterPieces c.parameters ++ (thrownPieces c.thrown ++ c.body.pieces))

/-- The pieces of a constructor behind its modifiers. -/
def plainPieces (c : Constructor) : List Piece :=
  typeParameterPieces c.typeParameters ++ c.signaturePieces

/-- The constructor declared. -/
def declared (c : Constructor) : ServiceAtlas.Constructor where
  parameters := c.parameters.map Parameter.declared
  marks := Modifier.marks c.modifiers
  documentation := documentationOf c.comment

end Constructor

/-- What a method ends with: a body, nothing, or the value that an element of an annotation has
where none is given. -/
inductive Ending where
  | body (b : Block)
  | nothing
  | value (e : Expression)

/-- The pieces of the end of a method. -/
def Ending.pieces : Ending → List Piece
  | body b => b.pieces
  | nothing => [.of .semicolon]
  | value e => headPiece "default" (by decide) :: (e.pieces ++ [.of .semicolon])

/-- A method. -/
structure Method where
  comment : Option DocComment
  modifiers : List Modifier
  typeParameters : List TypeParameter
  isUnsealed : typeParameters = [] ∨ ∀ m ∈ modifiers, isSealing m = false
  result : Option TypeUse
  name : Identifier
  parameters : List Parameter
  thrown : List Path
  ending : Ending

namespace Method

/-- The pieces of a result type. -/
def resultPieces : Option TypeUse → List Piece
  | none => [headPiece "void" (by decide)]
  | some t => t.pieces

/-- The pieces of a method from its result type on. -/
def signaturePieces (m : Method) : List Piece :=
  resultPieces m.result ++ (m.name.piece ::
    (parameterPieces m.parameters ++ (thrownPieces m.thrown ++ m.ending.pieces)))

/-- The pieces of a method behind its modifiers. -/
def plainPieces (m : Method) : List Piece :=
  typeParameterPieces m.typeParameters ++ m.signaturePieces

/-- The type that a method returns. -/
def writtenResult (m : Method) : WrittenType :=
  m.result.elim .void TypeUse.written

/-- The method declared. -/
def declared (m : Method) : ServiceAtlas.Method where
  name := m.name.text
  returnType := m.writtenResult
  parameters := m.parameters.map Parameter.declared
  marks := Modifier.marks m.modifiers
  documentation := documentationOf m.comment
  modifiers := orderedModifiers (Modifier.words m.modifiers)

end Method

/-- A block that declares nothing: an initializer, or a constructor of a record that has its name
and no parameters of its own. -/
structure Initializer where
  comment : Option DocComment
  modifiers : List Modifier
  isUnsealed : ∀ m ∈ modifiers, isSealing m = false
  name : Option Identifier
  body : Block

/-- The pieces of an initializer behind its modifiers. -/
def Initializer.plainPieces (i : Initializer) : List Piece :=
  i.name.toList.map Identifier.piece ++ i.body.pieces

/-- The arguments of a call, of which no more is known than where they end. -/
structure CallArguments where
  inner : List Piece
  isBalanced : BalancedPieces inner

/-- The pieces of arguments that may be missing. -/
def callPieces : Option CallArguments → List Piece
  | none => []
  | some a => .of .openParen :: (a.inner ++ [.of .closeParen])

/-- A constant of an enumeration, perhaps with the arguments of a constructor and a body. -/
structure Constant where
  comment : Option DocComment
  modifiers : List Modifier
  name : Identifier
  arguments : Option CallArguments
  body : Option Block

namespace Constant

/-- The pieces of a body that may be missing. -/
def bodyPieces : Option Block → List Piece
  | none => []
  | some b => b.pieces

/-- The pieces of a constant. -/
def pieces (c : Constant) : List Piece :=
  headed c.comment (Modifier.allPieces c.modifiers
    ++ c.name.piece :: (callPieces c.arguments ++ bodyPieces c.body))

/-- The constant declared. -/
def declared (c : Constant) : EnumConstant where
  name := c.name.text
  documentation := documentationOf c.comment
  marks := Modifier.marks c.modifiers

end Constant

/-! ### Headings -/

/-- What one kind of type has and another has not. -/
inductive Shape where
  | plainClass (typeParameters : List TypeParameter) (superclass : Option TypeUse)
      (implemented : List TypeUse)
  | interface (typeParameters : List TypeParameter) (extended : List TypeUse)
  | enumeration (implemented : List TypeUse) (constants : List Constant)
  | record (typeParameters : List TypeParameter) (components : List Parameter)
      (implemented : List TypeUse)
  | annotationType

/-- A keyword and the types it introduces, if there are any. -/
def supertypePieces (keyword : Piece) : List TypeUse → List Piece
  | [] => []
  | ts => keyword :: separated (.of .comma) (ts.map TypeUse.pieces)

namespace Shape

/-- The kind of the type. -/
def kind : Shape → TypeKind
  | plainClass _ _ _ => .plainClass
  | interface _ _ => .interface
  | enumeration _ _ => .enumeration
  | record _ _ _ => .record
  | annotationType => .annotationType

/-- The pieces of the keyword of the kind. -/
def keywordPieces : Shape → List Piece
  | plainClass _ _ _ => [headPiece "class" (by decide)]
  | interface _ _ => [headPiece "interface" (by decide)]
  | enumeration _ _ => [headPiece "enum" (by decide)]
  | record _ _ _ => [headPiece "record" (by decide)]
  | annotationType => [.of .atSign, headPiece "interface" (by decide)]

/-- The type parameters, which enumerations and annotation types have not. -/
def typeParameters : Shape → List TypeParameter
  | plainClass ps _ _ => ps
  | interface ps _ => ps
  | record ps _ _ => ps
  | _ => []

/-- The superclass. -/
def superclass : Shape → Option TypeUse
  | plainClass _ superclass _ => superclass
  | _ => none

/-- The types behind `extends`. -/
def extended : Shape → List TypeUse
  | plainClass _ superclass _ => superclass.toList
  | interface _ extended => extended
  | _ => []

/-- The types behind `implements`. -/
def implemented : Shape → List TypeUse
  | plainClass _ _ implemented => implemented
  | enumeration implemented _ => implemented
  | record _ _ implemented => implemented
  | _ => []

/-- The interfaces: those that an interface extends, and those that another type implements. -/
def interfaces : Shape → List TypeUse
  | interface _ extended => extended
  | s => s.implemented

/-- The constants. -/
def constants : Shape → List Constant
  | enumeration _ constants => constants
  | _ => []

/-- The components. -/
def components : Shape → List Parameter
  | record _ components _ => components
  | _ => []

/-- The pieces of the components, which a record alone has. -/
def componentPieces : Shape → List Piece
  | record _ components _ => parameterPieces components
  | _ => []

/-- The pieces of the supertypes. -/
def supertypePieces (s : Shape) : List Piece :=
  Grammar.supertypePieces (headPiece "extends" (by decide)) s.extended
    ++ Grammar.supertypePieces (headPiece "implements" (by decide)) s.implemented

/-- The pieces between the name and the body. -/
def signaturePieces (s : Shape) : List Piece :=
  typeParameterPieces s.typeParameters ++ (s.componentPieces ++ s.supertypePieces)

/-- The pieces of the constants, with a semicolon if members follow. -/
def constantPieces (s : Shape) (hasMembers : Bool) : List Piece :=
  match s with
  | enumeration _ constants =>
    separated (.of .comma) (constants.map Constant.pieces)
      ++ if hasMembers then [.of .semicolon] else []
  | _ => []

end Shape

/-- What stands in front of the body of a type. -/
structure Heading where
  comment : Option DocComment
  modifiers : List Modifier
  name : Identifier
  shape : Shape

/-- The pieces of a heading behind the modifiers. -/
def Heading.plainPieces (h : Heading) : List Piece :=
  h.shape.keywordPieces ++ h.name.piece :: h.shape.signaturePieces

/-! ### Members and units -/

/-- A field, a constructor, a method, an initializer or a type with its members. -/
inductive Member where
  | field (f : Field)
  | constructor (c : Constructor)
  | method (m : Method)
  | initializer (i : Initializer)
  | type (heading : Heading) (members : List Member)

namespace Member

/-- The comment in front of a member. -/
def comment : Member → Option DocComment
  | field f => f.comment
  | constructor c => c.comment
  | method m => m.comment
  | initializer i => i.comment
  | type h _ => h.comment

/-- The modifiers of a member. -/
def modifiers : Member → List Modifier
  | field f => f.modifiers
  | constructor c => c.modifiers
  | method m => m.modifiers
  | initializer i => i.modifiers
  | type h _ => h.modifiers

/-- The fields that a member of a type of the given kind declares. -/
def fields (kind : TypeKind) : Member → List ServiceAtlas.Field
  | field f => f.declared kind
  | _ => []

/-- The constructor that a member declares. -/
def constructor? : Member → Option ServiceAtlas.Constructor
  | constructor c => some c.declared
  | _ => none

/-- The method that a member of a type of the given kind declares; in an annotation type it is an
element. -/
def method? (kind : TypeKind) : Member → Option ServiceAtlas.Method
  | method m => if kind = .annotationType then none else some m.declared
  | _ => none

end Member

mutual

/-- The pieces of a member behind its modifiers. -/
def Member.plainPieces : Member → List Piece
  | .field f => f.plainPieces
  | .constructor c => c.plainPieces
  | .method m => m.plainPieces
  | .initializer i => i.plainPieces
  | .type h members =>
    h.plainPieces ++ (.of .openBrace :: (h.shape.constantPieces (!members.isEmpty)
      ++ (memberPieces members ++ [.of .closeBrace])))

/-- The pieces of members, one after the other. -/
def memberPieces : List Member → List Piece
  | [] => []
  | m :: ms =>
    headed m.comment (Modifier.allPieces m.modifiers ++ m.plainPieces) ++ memberPieces ms

end

/-- The declaration of a type with the given heading and members. -/
def Heading.declared (h : Heading) (members : List Member) (scope origin : String) :
    Declaration where
  name := h.name.text
  scope := scope
  kind := h.shape.kind
  marks := Modifier.marks h.modifiers
  documentation := documentationOf h.comment
  modifiers := orderedModifiers (Modifier.words h.modifiers)
  superclass := h.shape.superclass.map TypeUse.written
  interfaces := h.shape.interfaces.map TypeUse.written
  fields := h.shape.components.map Parameter.component
    ++ members.flatMap (Member.fields h.shape.kind)
  constructors := members.filterMap Member.constructor?
  methods := members.filterMap (Member.method? h.shape.kind)
  constants := h.shape.constants.map Constant.declared
  origin := origin

mutual

/-- The declarations of a member: its own type, then those declared in it. -/
def Member.declarations (scope origin : String) : Member → List Declaration
  | .field _ => []
  | .constructor _ => []
  | .method _ => []
  | .initializer _ => []
  | .type h members =>
    h.declared members scope origin :: declarationsOf (qualify scope h.name.text) origin members

/-- The declarations of members, in order. -/
def declarationsOf (scope origin : String) : List Member → List Declaration
  | [] => []
  | m :: ms => m.declarations scope origin ++ declarationsOf scope origin ms

end

/-- A type that is declared in no other, with its members. -/
structure TypeDeclaration where
  heading : Heading
  members : List Member

/-- A type declaration as a member of its unit. -/
def TypeDeclaration.member (d : TypeDeclaration) : Member :=
  .type d.heading d.members

/-- The words that begin the declaration of a package or an import. -/
def namingWords : List String :=
  ["package", "import"]

theorem isName_namingWords : ∀ w ∈ namingWords, isName w.toList = true := by
  decide

theorem package_mem : "package" ∈ namingWords := by
  decide

theorem import_mem : "import" ∈ namingWords := by
  decide

/-- The pieces of the declaration of a package or of an import. -/
def namingPieces (w : String) (hw : w ∈ namingWords) (named : List Piece) : List Piece :=
  .word w (isName_namingWords w hw) :: (named ++ [.of .semicolon])

/-- An import: of one name or of all that a name has, and of static members if it says so. -/
structure Import where
  isStatic : Bool
  path : Path
  isOnDemand : Bool

/-- The pieces of an import behind the keyword. -/
def Import.pieces (i : Import) : List Piece :=
  (if i.isStatic then [.word "static" (by decide)] else [])
    ++ (i.path.pieces ++ if i.isOnDemand then [.of .dot, .of .asterisk] else [])

/-- A compilation unit: its package, if it is in one, its imports and its types. -/
structure Source where
  package : Option Path
  imports : List Import
  types : List TypeDeclaration

namespace Source

/-- The pieces of the package declaration. -/
def packagePieces : Option Path → List Piece
  | none => []
  | some p => namingPieces "package" package_mem p.pieces

/-- The pieces of imports. -/
def importPieces (is : List Import) : List Piece :=
  is.flatMap fun i => namingPieces "import" import_mem i.pieces

/-- The pieces of a unit. -/
def pieces (s : Source) : List Piece :=
  packagePieces s.package
    ++ (importPieces s.imports ++ memberPieces (s.types.map TypeDeclaration.member))

/-- The source text under a layout. -/
def text (s : Source) (l : Layout) : List Char :=
  l.text s.pieces

/-- The scope of the types. -/
def scope (s : Source) : String :=
  s.package.elim "" Path.text

/-- The declarations of a unit. -/
def declared (s : Source) (origin : String) : List Declaration :=
  declarationsOf s.scope origin (s.types.map TypeDeclaration.member)

end Source

end ServiceAtlas.Java.Grammar
