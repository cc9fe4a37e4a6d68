/-
Schemas of responses and of models.

A response is looked at two levels deep: the declared type, and for a generic wrapper the
type inside it.  A property of a model is described by its base type alone, and what is not
a number or a truth value counts as a string.
-/
import ServiceAtlas.Model
import ServiceAtlas.Settings.DocumentStyle

namespace ServiceAtlas.OpenApi

/-- A schema of a response. -/
inductive Schema where
  | object
  | reference (name : String)
  | list (item : String)
  | wrapper (name : String) (data : Schema)

namespace Schema

/-- What the name of a model is appended to in a reference. -/
def referenceStart : String := "#/components/schemas/"

/-- A reference to a model as JSON. -/
def referenceJson (name : String) : Json :=
  .obj [("$ref", .str (referenceStart ++ name))]

/-- A schema as JSON. -/
def toJson : Schema → Json
  | object => .obj [("type", .str "object")]
  | reference name => referenceJson name
  | list item => .obj [("type", .str "array"), ("items", referenceJson item)]
  | wrapper name data =>
    .obj [("allOf", .arr [
      referenceJson name,
      .obj [("properties", .obj [("data", data.toJson)])]])]

/-- The schema of the type inside a wrapper. -/
def ofWrapped (style : DocumentStyle) : TypeRef → Schema
  | .mk base [] => if style.placeholderTypes.contains base then object else reference base
  | .mk base (a :: _) =>
    if style.collectionTypes.contains base then list a.base else reference base

/-- The schema of a response of a type. -/
def ofResponse (style : DocumentStyle) : TypeRef → Schema
  | .mk base [a] =>
    if style.collectionTypes.contains base then list a.base
    else wrapper base (ofWrapped style a)
  | .mk base _ => reference base

/-- The schema of a response whose type may be unknown. -/
def ofResponse? (style : DocumentStyle) : Option TypeRef → Schema
  | none => object
  | some t => ofResponse style t

end Schema

/-- The types that a property can have in a document. -/
inductive Primitive where
  | integer
  | number
  | boolean
  | string
  deriving DecidableEq

namespace Primitive

/-- The word for a type. -/
def word : Primitive → String
  | integer => "integer"
  | number => "number"
  | boolean => "boolean"
  | string => "string"

/-- The names of numbers and truth values. -/
def table : List (String × Primitive) :=
  [("int", integer), ("long", integer), ("Integer", integer), ("Long", integer),
    ("double", number), ("float", number), ("Double", number), ("Float", number),
    ("boolean", boolean), ("Boolean", boolean)]

/-- The type for a type name. -/
def ofName (name : String) : Primitive :=
  (table.lookup name).getD string

/-- The type for a type name that may be unknown. -/
def ofName? (name : Option String) : Primitive :=
  ofName (name.getD "")

/-- The type of a property. -/
def ofProperty (p : Property) : Primitive :=
  ofName? (p.type.map (·.base))

end Primitive

/-- The schema of a model: the type of each property name, the last property of a name
deciding. -/
def modelSchema (m : Model) : OrderedMap String Primitive :=
  .ofList (m.properties.map fun p => (p.name, .ofProperty p))

/-- The schemas of models by name, the last model of a name deciding. -/
def modelSchemas (ms : List Model) : OrderedMap String (OrderedMap String Primitive) :=
  .ofList (ms.map fun m => (m.name, modelSchema m))

/-- The schema of a model as JSON. -/
def modelSchemaJson (properties : OrderedMap String Primitive) : Json :=
  .obj [
    ("type", .str "object"),
    ("properties", .ofMap (fun t : Primitive => .obj [("type", .str t.word)]) properties)]

end ServiceAtlas.OpenApi
