/-
Endpoints of a service: one operation each, a verb on a path.
-/
import ServiceAtlas.TypeRef
import ServiceAtlas.Declaration
import ServiceAtlas.Text.Case

namespace ServiceAtlas

/-- The verbs that an endpoint can have. -/
inductive Verb where
  | get
  | post
  | put
  | delete
  | patch
  deriving DecidableEq, Inhabited

namespace Verb

/-- All verbs with their names. -/
def table : List (String × Verb) :=
  [("GET", get), ("POST", post), ("PUT", put), ("DELETE", delete), ("PATCH", patch)]

/-- The name of a verb, in capitals. -/
def name : Verb → String
  | get => "GET"
  | post => "POST"
  | put => "PUT"
  | delete => "DELETE"
  | patch => "PATCH"

/-- The name of a verb in small letters, as it is a key of a path item. -/
def key : Verb → String
  | get => "get"
  | post => "post"
  | put => "put"
  | delete => "delete"
  | patch => "patch"

/-- The verb with a name. -/
def ofName? (s : String) : Option Verb :=
  table.lookup s

end Verb

/-- Where the value of a parameter is taken from. -/
inductive Place where
  | path
  | query
  deriving DecidableEq, Inhabited

namespace Place

/-- The word for a place. -/
def word : Place → String
  | path => "path"
  | query => "query"

/-- All places with their words. -/
def table : List (String × Place) :=
  [("path", path), ("query", query)]

end Place

/-- A parameter of an endpoint. -/
structure RequestParameter where
  name : String
  place : Place
  required : Bool
  description : String
  type : TypeRef
  deriving Inhabited

/-- How a collaborator reaches the type that uses it. -/
inductive Injection where
  | field
  | constructor
  deriving DecidableEq, Inhabited

namespace Injection

/-- The word for a way of injection. -/
def word : Injection → String
  | field => "field"
  | constructor => "constructor"

/-- All ways of injection with their words. -/
def table : List (String × Injection) :=
  [("field", field), ("constructor", constructor)]

end Injection

/-- A collaborator that is injected into a controller. -/
structure Dependency where
  name : String
  type : String
  injection : Injection
  deriving DecidableEq, Inhabited

/-- One operation of a service. -/
structure Endpoint where
  path : String
  verb : Verb
  summary : String
  description : String
  tags : List String
  parameters : List RequestParameter
  requestBody : Option TypeRef
  response : TypeRef
  controllerName : String
  controllerScope : String
  dependencies : List Dependency
  deprecated : Bool
  deriving Inhabited

namespace Endpoint

/-- The name of the controller with its scope. -/
def controller (e : Endpoint) : String :=
  qualify e.controllerScope e.controllerName

end Endpoint

end ServiceAtlas
