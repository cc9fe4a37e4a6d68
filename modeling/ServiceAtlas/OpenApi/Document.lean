/-
OpenAPI documents.

The paths of a document are a fold over the endpoints: paths and verbs keep the place of
their first endpoint, an operation is that of the last endpoint with its path and verb, and
every endpoint that replaces another is reported.
-/
import ServiceAtlas.OpenApi.Schema
import ServiceAtlas.Catalog
import ServiceAtlas.Notice

namespace ServiceAtlas.OpenApi

/-- One operation. -/
structure Operation where
  tags : List String
  summary : String
  description : String
  parameters : List RequestParameter
  takesBody : Bool
  response : Schema
  deprecated : Bool

/-- The operations of each path. -/
abbrev Paths := OrderedMap String (OrderedMap Verb Operation)

/-- A document. -/
structure Document where
  title : String
  version : String
  servers : List Server
  paths : Paths
  schemas : OrderedMap String (OrderedMap String Primitive)

/-- The path under which an endpoint stands. -/
def pathKey (e : Endpoint) : String :=
  if e.path.isEmpty then "/" else e.path

/-- The operation of an endpoint.  A GET takes no body. -/
def Operation.ofEndpoint (style : DocumentStyle) (e : Endpoint) : Operation where
  tags := e.tags
  summary := e.summary
  description := e.description
  parameters := e.parameters
  takesBody := e.requestBody.isSome && e.verb ≠ .get
  response := .ofResponse style e.response
  deprecated := e.deprecated

namespace Paths

/-- The operations of a path. -/
def item (paths : Paths) (key : String) : OrderedMap Verb Operation :=
  (paths.get? key).getD ∅

/-- The paths with one more endpoint. -/
def add (style : DocumentStyle) (paths : Paths) (e : Endpoint) : Paths :=
  paths.insert (pathKey e) ((paths.item (pathKey e)).insert e.verb (.ofEndpoint style e))

/-- The report of an endpoint that replaces another one. -/
def replacement (paths : Paths) (e : Endpoint) : List Notice :=
  if (paths.item (pathKey e)).contains e.verb then
    [.duplicateOperation e.verb (pathKey e) e.controller]
  else []

/-- Take endpoints in one after another. -/
def addAll (style : DocumentStyle) : Paths → List Endpoint → Paths × List Notice
  | paths, [] => (paths, [])
  | paths, e :: es =>
    let (result, notices) := addAll style (paths.add style e) es
    (result, paths.replacement e ++ notices)

end Paths

/-- The paths of endpoints, and the reports of replaced operations. -/
def paths (style : DocumentStyle) (es : List Endpoint) : Paths × List Notice :=
  Paths.addAll style ∅ es

/-- The document of a catalog, and the reports of replaced operations. -/
def document (style : DocumentStyle) (c : Catalog) : Document × List Notice :=
  let (paths, notices) := paths style c.endpoints
  ({ title := style.title
     version := style.version
     servers := style.servers
     paths := paths
     schemas := modelSchemas c.models }, notices)

/-! ### Documents as JSON -/

/-- The version of the format. -/
def formatVersion : String := "3.0.0"

/-- A schema as the content of a body. -/
def content (schema : Json) : Json :=
  .obj [("application/json", .obj [("schema", schema)])]

/-- A parameter as JSON; every parameter is a string. -/
def parameterJson (p : RequestParameter) : Json :=
  .obj [
    ("name", .str p.name),
    ("in", .str p.place.word),
    ("required", .bool p.required),
    ("schema", .obj [("type", .str "string")])]

/-- A member that is left out when its text is empty. -/
def textMember (name text : String) : List (String × Json) :=
  if text.isEmpty then [] else [(name, .str text)]

/-- The body of a request as JSON. -/
def requestBodyJson : Json :=
  .obj [("required", .bool true), ("content", content Schema.object.toJson)]

/-- The responses of an operation as JSON. -/
def responsesJson (schema : Schema) : Json :=
  .obj [("200", .obj [
    ("description", .str "Successful Response"),
    ("content", content schema.toJson)])]

/-- An operation as JSON. -/
def Operation.toJson (o : Operation) : Json :=
  .obj (
    (if o.tags.isEmpty then [] else [("tags", .strings o.tags)])
      ++ textMember "summary" o.summary
      ++ textMember "description" o.description
      ++ [("parameters", .arr (o.parameters.map parameterJson))]
      ++ (if o.takesBody then [("requestBody", requestBodyJson)] else [])
      ++ [("responses", responsesJson o.response)]
      ++ (if o.deprecated then [("deprecated", .bool true)] else []))

/-- A server as JSON. -/
def serverJson (s : Server) : Json :=
  .obj (("url", .str s.url) :: textMember "description" s.description)

/-- The operations of a path as JSON. -/
def itemJson (item : OrderedMap Verb Operation) : Json :=
  .obj (item.entries.map fun e => (e.1.key, e.2.toJson))

/-- A document as JSON. -/
def Document.toJson (d : Document) : Json :=
  .obj [
    ("openapi", .str formatVersion),
    ("info", .obj [("title", .str d.title), ("version", .str d.version)]),
    ("servers", .arr (d.servers.map serverJson)),
    ("paths", .ofMap itemJson d.paths),
    ("components", .obj [("schemas", .ofMap modelSchemaJson d.schemas)])]

end ServiceAtlas.OpenApi
