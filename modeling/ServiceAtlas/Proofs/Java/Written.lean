/-
Declarations as they are written in Java.

A written declaration is a class, an interface or an enumeration without member types.  Each
part of it has the pieces that it is written with, and next to them stands what it declares.
Constants come first, then fields, constructors and methods; in front of every one of them
there may be a documentation comment, annotations and modifiers.
-/
import ServiceAtlas.Java.Reader
import ServiceAtlas.Java.Declarations
import ServiceAtlas.Java.SyntaxCheck
import ServiceAtlas.Proofs.Java.WrittenValue

namespace ServiceAtlas.Java.Written

/-! ### Annotations and modifiers -/

/-- What stands in the parentheses of an annotation, if it has any. -/
inductive Arguments where
  | absent
  | sole (v : Value)
  | pairs (entries : List (Name × Value))

namespace Arguments

/-- The pieces of arguments. -/
def pieces : Arguments → List Piece
  | absent => []
  | sole v => [.of .openParen, v.piece, .of .closeParen]
  | pairs entries =>
    .of .openParen ::
      (separated (.of .comma)
          (entries.map fun e => [e.1.piece, .of .equals, e.2.piece])
        ++ [.of .closeParen])

/-- The attributes that arguments give. -/
def attributes : Arguments → OrderedMap String String
  | absent => ∅
  | sole v => .ofList [(soleKey, v.text)]
  | pairs entries => .ofList (entries.map fun e => (e.1.text, e.2.text))

end Arguments

/-- An annotation. -/
structure Annotation where
  name : Qualified
  arguments : Arguments

namespace Annotation

/-- The pieces of an annotation. -/
def pieces (a : Annotation) : List Piece :=
  .of .atSign :: (a.name.pieces ++ a.arguments.pieces)

/-- The annotation under its simple name. -/
def mark (a : Annotation) : Mark :=
  ⟨a.name.name.text, a.arguments.attributes⟩

end Annotation

/-- A modifier word or an annotation. -/
inductive Modifier where
  | word (w : String) (h : w ∈ Reader.modifierWords)
  | sealed
  | unsealed
  | annotated (a : Annotation)

theorem isName_modifierWords : ∀ w ∈ Reader.modifierWords, isName w.toList = true := by
  decide

namespace Modifier

/-- The word that takes a sealing back, which is made of three tokens. -/
def unsealedPiece : Piece where
  comment := none
  first := .word "non" (by decide)
  tail := [Lexeme.hyphen.token [], (Lexeme.word "sealed" (by decide)).token []]
  written := by
    intro t ht
    rcases List.mem_cons.mp ht with rfl | ht
    · exact isWritten_token_nil _
    · rw [List.mem_singleton.mp ht]
      exact isWritten_token_nil _
  chain := by
    refine .cons_cons ?_ (.cons_cons (mayPrecede_of_mark (by decide) (by decide) _ _) (.singleton _))
    rintro c hc
    cases hc
    decide

/-- The pieces of a modifier. -/
def pieces : Modifier → List Piece
  | word w h => [.word w (isName_modifierWords w h)]
  | sealed => [.word "sealed" (by decide)]
  | unsealed => [unsealedPiece]
  | annotated a => a.pieces

/-- The word that a modifier is. -/
def word? : Modifier → Option String
  | word w _ => some w
  | sealed => some "sealed"
  | unsealed => some "non-sealed"
  | annotated _ => none

/-- The annotation that a modifier is. -/
def mark? : Modifier → Option Mark
  | annotated a => some a.mark
  | _ => none

/-- The pieces of modifiers. -/
def allPieces (ms : List Modifier) : List Piece :=
  ms.flatMap pieces

/-- The annotations among modifiers. -/
def marks (ms : List Modifier) : List Mark :=
  ms.filterMap mark?

/-- The words among modifiers. -/
def words (ms : List Modifier) : List String :=
  ms.filterMap word?

end Modifier

/-! ### Types -/

mutual

/-- A primitive or a reference type, and the number of its dimensions.  The name of a
reference type may be qualified and generic. -/
inductive TypeUse where
  | primitive (w : String) (h : w ∈ SyntaxCheck.primitiveWords) (dimensions : Nat)
  | reference (name : Qualified) (arguments : List TypeArgument) (dimensions : Nat)

/-- A wildcard, with or without a bound, or a type. -/
inductive TypeArgument where
  | wildcard
  | bounded (upper : Bool) (bound : TypeUse)
  | type (t : TypeUse)

end

theorem isName_primitiveWords : ∀ w ∈ SyntaxCheck.primitiveWords, isName w.toList = true := by
  decide

/-- Pairs of brackets. -/
def dimensionPieces : Nat → List Piece
  | 0 => []
  | n + 1 => .of .openBracket :: .of .closeBracket :: dimensionPieces n

/-- The keyword in front of the bound of a wildcard. -/
def boundPiece (upper : Bool) : Piece :=
  if upper then .word "extends" (by decide) else .word "super" (by decide)

mutual

/-- The pieces of a type. -/
def TypeUse.pieces : TypeUse → List Piece
  | .primitive w h dimensions =>
    .word w (isName_primitiveWords w h) :: dimensionPieces dimensions
  | .reference name arguments dimensions =>
    name.pieces ++ (argumentPieces arguments ++ dimensionPieces dimensions)

/-- The pieces of a type argument. -/
def TypeArgument.pieces : TypeArgument → List Piece
  | .wildcard => [.of .question]
  | .bounded upper bound => .of .question :: boundPiece upper :: bound.pieces
  | .type t => t.pieces

/-- The pieces of type arguments in angle brackets; none are written without brackets. -/
def argumentPieces : List TypeArgument → List Piece
  | [] => []
  | a :: as => .of .less :: (a.pieces ++ furtherArgumentPieces as)

/-- The pieces behind a type argument, up to the closing bracket. -/
def furtherArgumentPieces : List TypeArgument → List Piece
  | [] => [.of .greater]
  | a :: as => .of .comma :: (a.pieces ++ furtherArgumentPieces as)

end

mutual

/-- The type that is meant. -/
def TypeUse.written : TypeUse → WrittenType
  | .primitive w _ dimensions => .arrayOfDepth (.simple w) dimensions
  | .reference name arguments dimensions =>
    .arrayOfDepth (.mk name.name.text (writtenArguments arguments) false) dimensions

/-- The type argument that is meant; bounds are not kept. -/
def TypeArgument.written : TypeArgument → WrittenType
  | .wildcard => .wildcard
  | .bounded _ _ => .wildcard
  | .type t => t.written

/-- The type arguments that are meant. -/
def writtenArguments : List TypeArgument → List WrittenType
  | [] => []
  | a :: as => a.written :: writtenArguments as

end

/-! ### Members -/

/-- What a comment documents. -/
def documentationOf : Option DocComment → Documentation
  | none => .none
  | some c => Javadoc.parse c.text

/-- A formal parameter.  It may have dimensions behind its name, or three dots in front of it. -/
structure Parameter where
  modifiers : List Modifier
  type : TypeUse
  name : Name
  dimensions : Option Nat

namespace Parameter

/-- Three dots, which nothing separates. -/
def dotsPiece : Piece where
  comment := none
  first := .dot
  tail := [Lexeme.dot.token [], Lexeme.dot.token []]
  written := by
    intro t ht
    rcases List.mem_cons.mp ht with rfl | ht
    · exact isWritten_token_nil _
    · rw [List.mem_singleton.mp ht]
      exact isWritten_token_nil _
  chain := by
    refine .cons_cons ?_ (.cons_cons ?_ (.singleton _))
    all_goals
      rintro c hc
      cases hc
      decide

/-- The pieces of the name and what belongs to it. -/
def namePieces (p : Parameter) : List Piece :=
  match p.dimensions with
  | some n => p.name.piece :: dimensionPieces n
  | none => [dotsPiece, p.name.piece]

/-- The pieces of a parameter. -/
def pieces (p : Parameter) : List Piece :=
  Modifier.allPieces p.modifiers ++ (p.type.pieces ++ p.namePieces)

/-- The parameter declared. -/
def declared (p : Parameter) : ServiceAtlas.Parameter where
  name := p.name.text
  type :=
    match p.dimensions with
    | some n => .arrayOfDepth p.type.written n
    | none => .arrayOf p.type.written
  marks := Modifier.marks p.modifiers

end Parameter

/-- The pieces of parameters in parentheses. -/
def parameterPieces (ps : List Parameter) : List Piece :=
  .of .openParen ::
    (separated (.of .comma) (ps.map Parameter.pieces) ++ [.of .closeParen])

/-- A variable with its dimensions and the value it may begin with. -/
structure Variable where
  name : Name
  dimensions : Nat
  initial : Option Value

/-- The pieces of an initial value. -/
def initialPieces : Option Value → List Piece
  | none => []
  | some v => [.of .equals, v.piece]

/-- The pieces of a variable. -/
def Variable.pieces (v : Variable) : List Piece :=
  v.name.piece :: (dimensionPieces v.dimensions ++ initialPieces v.initial)

/-- Variables declared together. -/
structure Field where
  comment : Option DocComment
  modifiers : List Modifier
  type : TypeUse
  first : Variable
  others : List Variable

namespace Field

/-- The pieces of a field. -/
def pieces (f : Field) : List Piece :=
  headed f.comment (Modifier.allPieces f.modifiers ++ (f.type.pieces
    ++ (separated (.of .comma) ((f.first :: f.others).map Variable.pieces)
      ++ [.of .semicolon])))

/-- The fields declared; those of an interface are constants. -/
def declared (kind : TypeKind) (f : Field) : List ServiceAtlas.Field :=
  (f.first :: f.others).map fun v =>
    { name := v.name.text
      type := .arrayOfDepth f.type.written v.dimensions
      marks := Modifier.marks f.modifiers
      documentation := documentationOf f.comment
      modifiers := orderedModifiers
        (Modifier.words f.modifiers ++ if kind = .interface then constantWords else []) }

end Field

/-- A constructor. -/
structure Constructor where
  comment : Option DocComment
  modifiers : List Modifier
  parameters : List Parameter

namespace Constructor

/-- The pieces of a constructor of the type with the given name. -/
def pieces (owner : Name) (c : Constructor) : List Piece :=
  headed c.comment (Modifier.allPieces c.modifiers ++ (owner.piece ::
    (parameterPieces c.parameters ++ [.of .openBrace, .of .closeBrace])))

/-- The constructor declared. -/
def declared (c : Constructor) : ServiceAtlas.Constructor where
  parameters := c.parameters.map Parameter.declared
  marks := Modifier.marks c.modifiers
  documentation := documentationOf c.comment

end Constructor

/-- A method, with an empty body or without one. -/
structure Method where
  comment : Option DocComment
  modifiers : List Modifier
  result : Option TypeUse
  name : Name
  parameters : List Parameter
  hasBody : Bool

namespace Method

/-- The pieces of a result type. -/
def resultPieces : Option TypeUse → List Piece
  | none => [.word "void" (by decide)]
  | some t => t.pieces

/-- The pieces behind the parameters. -/
def endPieces (hasBody : Bool) : List Piece :=
  if hasBody then [.of .openBrace, .of .closeBrace]
  else [.of .semicolon]

/-- The pieces of a method. -/
def pieces (m : Method) : List Piece :=
  headed m.comment (Modifier.allPieces m.modifiers ++ (resultPieces m.result ++ (m.name.piece ::
    (parameterPieces m.parameters ++ endPieces m.hasBody))))

/-- The method declared. -/
def declared (m : Method) : ServiceAtlas.Method where
  name := m.name.text
  returnType := m.result.elim .void TypeUse.written
  parameters := m.parameters.map Parameter.declared
  marks := Modifier.marks m.modifiers
  documentation := documentationOf m.comment
  modifiers := orderedModifiers (Modifier.words m.modifiers)

end Method

/-- A constant of an enumeration. -/
structure Constant where
  comment : Option DocComment
  modifiers : List Modifier
  name : Name

namespace Constant

/-- The pieces of a constant. -/
def pieces (c : Constant) : List Piece :=
  headed c.comment (Modifier.allPieces c.modifiers ++ [c.name.piece])

/-- The constant declared. -/
def declared (c : Constant) : EnumConstant where
  name := c.name.text
  documentation := documentationOf c.comment
  marks := Modifier.marks c.modifiers

end Constant

/-- A field, a constructor or a method. -/
inductive Member where
  | field (f : Field)
  | constructor (c : Constructor)
  | method (m : Method)

/-- The pieces of a member of the type with the given name. -/
def Member.pieces (owner : Name) : Member → List Piece
  | field f => f.pieces
  | constructor c => c.pieces owner
  | method m => m.pieces

/-! ### Types declared -/

/-- What one kind of type has and another has not. -/
inductive Shape where
  | plainClass (superclass : Option TypeUse) (implemented : List TypeUse)
      (constructors : List Constructor)
  | interface (extended : List TypeUse)
  | enumeration (implemented : List TypeUse) (constants : List Constant)
      (constructors : List Constructor)

/-- A keyword and the types it introduces, if there are any. -/
def supertypePieces (keyword : Piece) : List TypeUse → List Piece
  | [] => []
  | ts => keyword :: separated (.of .comma) (ts.map TypeUse.pieces)

namespace Shape

/-- The kind of the type. -/
def kind : Shape → TypeKind
  | plainClass _ _ _ => .plainClass
  | interface _ => .interface
  | enumeration _ _ _ => .enumeration

/-- The keyword of the kind. -/
def keyword : Shape → Piece
  | plainClass _ _ _ => .word "class" (by decide)
  | interface _ => .word "interface" (by decide)
  | enumeration _ _ _ => .word "enum" (by decide)

/-- The superclass. -/
def superclass : Shape → Option TypeUse
  | plainClass superclass _ _ => superclass
  | _ => none

/-- The types behind `extends`. -/
def extended : Shape → List TypeUse
  | plainClass superclass _ _ => superclass.toList
  | interface extended => extended
  | enumeration _ _ _ => []

/-- The types behind `implements`. -/
def implemented : Shape → List TypeUse
  | plainClass _ implemented _ => implemented
  | interface _ => []
  | enumeration implemented _ _ => implemented

/-- The interfaces: those that an interface extends, and those that another type implements. -/
def interfaces : Shape → List TypeUse
  | interface extended => extended
  | s => s.implemented

/-- The constructors. -/
def constructors : Shape → List Constructor
  | plainClass _ _ constructors => constructors
  | interface _ => []
  | enumeration _ _ constructors => constructors

/-- The constants. -/
def constants : Shape → List Constant
  | enumeration _ constants _ => constants
  | _ => []

/-- The pieces of the supertypes. -/
def supertypePieces (s : Shape) : List Piece :=
  Written.supertypePieces (.word "extends" (by decide)) s.extended
    ++ Written.supertypePieces (.word "implements" (by decide)) s.implemented

end Shape

/-- A type without member types. -/
structure TypeDeclaration where
  comment : Option DocComment
  modifiers : List Modifier
  name : Name
  shape : Shape
  fields : List Field
  methods : List Method

namespace TypeDeclaration

/-- The members in the order in which they are written. -/
def members (d : TypeDeclaration) : List Member :=
  d.fields.map .field ++ (d.shape.constructors.map .constructor ++ d.methods.map .method)

/-- The pieces of the constants, with a semicolon if members follow. -/
def constantPieces (d : TypeDeclaration) : List Piece :=
  match d.shape with
  | .enumeration _ constants _ =>
    separated (.of .comma) (constants.map Constant.pieces)
      ++ if d.members.isEmpty then [] else [.of .semicolon]
  | _ => []

/-- The pieces in front of the body. -/
def headPieces (d : TypeDeclaration) : List Piece :=
  headed d.comment (Modifier.allPieces d.modifiers
    ++ (d.shape.keyword :: d.name.piece :: d.shape.supertypePieces))

/-- The pieces of a type. -/
def pieces (d : TypeDeclaration) : List Piece :=
  d.headPieces ++ (.of .openBrace ::
    (d.constantPieces ++ (d.members.flatMap (Member.pieces d.name)
      ++ [.of .closeBrace])))

/-- The type declared. -/
def declared (d : TypeDeclaration) (scope origin : String) : Declaration where
  name := d.name.text
  scope := scope
  kind := d.shape.kind
  marks := Modifier.marks d.modifiers
  documentation := documentationOf d.comment
  modifiers := orderedModifiers (Modifier.words d.modifiers)
  superclass := d.shape.superclass.map TypeUse.written
  interfaces := d.shape.interfaces.map TypeUse.written
  fields := d.fields.flatMap (Field.declared d.shape.kind)
  constructors := d.shape.constructors.map Constructor.declared
  methods := d.methods.map Method.declared
  constants := d.shape.constants.map Constant.declared
  origin := origin

end TypeDeclaration

/-- A compilation unit with one type, in a package or in the unnamed one. -/
structure Source where
  package : Option Qualified
  type : TypeDeclaration

namespace Source

/-- The pieces of the package declaration. -/
def packagePieces : Option Qualified → List Piece
  | none => []
  | some q => .word "package" (by decide) :: (q.pieces ++ [.of .semicolon])

/-- The pieces of a unit. -/
def pieces (s : Source) : List Piece :=
  packagePieces s.package ++ s.type.pieces

/-- The source text under a layout. -/
def text (s : Source) (l : Layout) : List Char :=
  l.text s.pieces

/-- The scope of the type. -/
def scope (s : Source) : String :=
  s.package.elim "" Qualified.text

end Source

end ServiceAtlas.Java.Written
