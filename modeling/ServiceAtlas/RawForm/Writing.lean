/-
Records as JSON.

Every member of a record is written, in a fixed order and under its camel case name; what is
absent is null.  In the catalog, numbers that JSON cannot express are null too.
-/
import ServiceAtlas.Catalog
import ServiceAtlas.Relationship

namespace ServiceAtlas

namespace Json

mutual

/-- The value with null in place of the numbers that JSON cannot express. -/
def expressed : Json → Json
  | float x => if x.isFinite then float x else null
  | arr items => arr (expressedItems items)
  | obj members => obj (expressedMembers members)
  | v => v

/-- The items, each with null in place of the numbers that JSON cannot express. -/
def expressedItems : List Json → List Json
  | [] => []
  | v :: vs => expressed v :: expressedItems vs

/-- The members, each with null in place of the numbers that JSON cannot express. -/
def expressedMembers : List (String × Json) → List (String × Json)
  | [] => []
  | (n, v) :: ms => (n, expressed v) :: expressedMembers ms

end

end Json

mutual

/-- A type reference as JSON. -/
def TypeRef.toJson : TypeRef → Json
  | .mk base args => .obj [("base", .str base), ("args", .arr (TypeRef.argsToJson args))]

/-- Type references as JSON, in order. -/
def TypeRef.argsToJson : List TypeRef → List Json
  | [] => []
  | t :: ts => TypeRef.toJson t :: TypeRef.argsToJson ts

end

/-- A property as JSON. -/
def Property.toJson (p : Property) : Json :=
  .obj [
    ("name", .str p.name),
    ("typeRef", .ofOption TypeRef.toJson p.type),
    ("required", .bool p.required),
    ("description", .str p.description),
    ("validationRules", .obj p.rules.entries),
    ("example", .ofOption .str p.sample),
    ("deprecated", .bool p.deprecated),
    ("deprecationNotes", .ofOption .str p.deprecationNotes)]

/-- A model as JSON. -/
def Model.toJson (m : Model) : Json :=
  .obj [
    ("name", .str m.name),
    ("description", .str m.description),
    ("fields", .arr (m.properties.map Property.toJson)),
    ("isInterface", .bool m.isInterface),
    ("isEnum", .bool m.isEnum),
    ("extendsList", .strings m.extended),
    ("implementsList", .strings m.implemented),
    ("example", .ofOption .str m.sample),
    ("deprecated", .bool m.deprecated),
    ("deprecationNotes", .ofOption .str m.deprecationNotes),
    ("since", .ofOption .str m.since),
    ("extensions", .obj m.extensions.entries)]

/-- A request parameter as JSON. -/
def RequestParameter.toJson (p : RequestParameter) : Json :=
  .obj [
    ("name", .str p.name),
    ("in", .str p.place.word),
    ("required", .bool p.required),
    ("description", .str p.description),
    ("type", p.type.toJson)]

/-- A dependency as JSON. -/
def Dependency.toJson (d : Dependency) : Json :=
  .obj [
    ("name", .str d.name),
    ("type", .str d.type),
    ("injectionType", .str d.injection.word)]

/-- An endpoint as JSON. -/
def Endpoint.toJson (e : Endpoint) : Json :=
  .obj [
    ("path", .str e.path),
    ("method", .str e.verb.name),
    ("summary", .str e.summary),
    ("description", .str e.description),
    ("tags", .strings e.tags),
    ("parameters", .arr (e.parameters.map RequestParameter.toJson)),
    ("requestBodyType", .ofOption TypeRef.toJson e.requestBody),
    ("responseType", e.response.toJson),
    ("controllerName", .str e.controllerName),
    ("controllerPackage", .str e.controllerScope),
    ("dependencies", .arr (e.dependencies.map Dependency.toJson)),
    ("deprecated", .bool e.deprecated)]

/-- An edge as JSON. -/
def Edge.toJson (e : Edge) : Json :=
  .obj [
    ("sourceClass", .str e.source),
    ("targetClass", .str e.target),
    ("type", .str e.kind.word),
    ("name", .ofOption .str e.name),
    ("injectionType", .ofOption (fun i : Injection => .str i.word) e.injection),
    ("sourceMethod", .ofOption .str e.sourceMethod),
    ("targetMethod", .ofOption .str e.targetMethod)]

/-- A catalog as JSON. -/
def Catalog.toJson (c : Catalog) : Json :=
  .obj [
    ("endpoints", .arr (c.endpoints.map Endpoint.toJson)),
    ("models", .arr (c.models.map fun m => m.toJson.expressed)),
    ("components", .strings c.components)]

end ServiceAtlas
