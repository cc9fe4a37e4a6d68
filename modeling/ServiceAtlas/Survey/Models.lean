/-
Models read from declarations.

Annotations act first and documentation then overrides what they say, so annotations only
fill gaps.  Classes and records have a property per field that is neither static nor final,
enumerations one per constant, and interfaces one per accessor.
-/
import ServiceAtlas.Survey
import ServiceAtlas.Survey.Effect

namespace ServiceAtlas

/-- What the documentation of a type says about its model. -/
def Model.document (m : Model) (d : Documentation) : Model :=
  let m := if d.description.isEmpty then m else { m with description := d.description }
  let m :=
    match d.deprecated with
    | none => m
    | some text => if text.isEmpty then m else { m with deprecationNotes := some text }
  if d.since.isEmpty then m
  else
    match m.since with
    | none => { m with since := some d.since }
    | some text => if text.isEmpty then { m with since := some d.since } else m

/-- What the documentation of a member says about its property. -/
def Property.document (p : Property) (d : Documentation) : Property :=
  let p := if d.description.isEmpty then p else { p with description := d.description }
  match d.deprecated with
  | none => p
  | some text => if text.isEmpty then p else { p with deprecationNotes := some text }

namespace Method

/-- The property name for the part of an accessor name behind its first word: a leading
capital becomes small unless a second one follows. -/
def propertyName : List Char → List Char
  | [] => []
  | [c] => Text.lower [c]
  | c :: d :: rest =>
    if Text.isUpperChar d then c :: d :: rest else Text.lower [c] ++ d :: rest

/-- The part of a name behind a word, if it begins with a capital. -/
def suffixAfter? (word name : List Char) : Option (List Char) :=
  if word.isPrefixOf name then
    match name.drop word.length with
    | c :: rest => if Text.isUpperChar c then some (c :: rest) else none
    | [] => none
  else none

/-- The part of an accessor name behind `get` or `is`. -/
def accessorSuffix? (m : Method) : Option (List Char) :=
  if !m.parameters.isEmpty || m.modifiers.contains "static" || m.returnType.name = "void" then
    none
  else
    (suffixAfter? "get".toList m.name.toList).orElse fun _ =>
      suffixAfter? "is".toList m.name.toList

/-- The property that a method gives access to. -/
def accessedProperty? (m : Method) : Option String :=
  m.accessorSuffix?.map fun suffix => String.ofList (propertyName suffix)

end Method

namespace Survey

variable (effects : EffectTable)

/-- A property with the effects of its annotations and its documentation. -/
def property (name : String) (type : WrittenType) (marks : List Mark)
    (documentation : Documentation) : Survey Property := do
  let type ← typeRef type
  let (p, notices) := effects.applyToProperty marks (.plain name (some type))
  noteAll notices
  return p.document documentation

/-- The property of a field. -/
def fieldProperty (f : Field) : Survey Property :=
  property effects f.name f.type f.marks f.documentation

/-- The model of a class or a record. -/
def classModel (d : Declaration) : Survey Model := do
  let m := effects.applyToModel d.marks (.plain d.name)
  let m := { m with
    extended := d.superclass.toList.map WrittenType.name
    implemented := d.interfaces.map WrittenType.name }
  let properties ← each (fieldProperty effects)
    (d.fields.filter fun f => !(f.isStatic || f.isFinal))
  return { m.document d.documentation with properties := properties }

/-- The model of an enumeration. -/
def enumModel (d : Declaration) : Model :=
  let m := effects.applyToModel d.marks { Model.plain d.name with isEnum := true }
  let m := { m with implemented := d.interfaces.map WrittenType.name }
  let constant (c : EnumConstant) : Property :=
    { Property.plain c.name none with description := c.documentation.description }
  { m.document d.documentation with properties := d.constants.map constant }

/-- The accessors among methods, each with its property; of those for one property only the
first. -/
def accessors (seen : List String) : List Method → List (String × Method)
  | [] => []
  | m :: ms =>
    match m.accessedProperty? with
    | none => accessors seen ms
    | some name =>
      if seen.contains name then accessors seen ms
      else (name, m) :: accessors (name :: seen) ms

/-- The property behind an accessor. -/
def accessorProperty (accessor : String × Method) : Survey Property :=
  let (name, m) := accessor
  property effects name m.returnType m.marks m.documentation

/-- The model of an interface. -/
def interfaceModel (d : Declaration) : Survey Model := do
  let m := effects.applyToModel d.marks { Model.plain d.name with isInterface := true }
  let m := { m with extended := d.interfaces.map WrittenType.name }
  let properties ← each (accessorProperty effects) (accessors [] d.methods)
  return { m.document d.documentation with properties := properties }

/-- The model of a declaration. -/
def model (d : Declaration) : Survey Model :=
  match d.kind with
  | .enumeration => done (enumModel effects d)
  | .interface => interfaceModel effects d
  | _ => classModel effects d

end Survey

end ServiceAtlas
