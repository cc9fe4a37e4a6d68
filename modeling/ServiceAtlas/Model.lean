/-
Data models of a service.

A model describes a class, a record, an enumeration or an interface by its properties.  The
constants of an enumeration are properties without a type.
-/
import ServiceAtlas.TypeRef
import ServiceAtlas.Json

namespace ServiceAtlas

/-- A property of a model.  Its rules are constraints by name. -/
structure Property where
  name : String
  type : Option TypeRef
  required : Bool
  description : String
  rules : OrderedMap String Json
  sample : Option String
  deprecated : Bool
  deprecationNotes : Option String
  deriving Inhabited

/-- A property of which only the name and the type are known. -/
def Property.plain (name : String) (type : Option TypeRef) : Property where
  name := name
  type := type
  required := false
  description := ""
  rules := ∅
  sample := none
  deprecated := false
  deprecationNotes := none

/-- A data model. -/
structure Model where
  name : String
  description : String
  properties : List Property
  isInterface : Bool
  isEnum : Bool
  extended : List String
  implemented : List String
  sample : Option String
  deprecated : Bool
  deprecationNotes : Option String
  since : Option String
  extensions : OrderedMap String Json
  deriving Inhabited

/-- A model of which only the name is known. -/
def Model.plain (name : String) : Model where
  name := name
  description := ""
  properties := []
  isInterface := false
  isEnum := false
  extended := []
  implemented := []
  sample := none
  deprecated := false
  deprecationNotes := none
  since := none
  extensions := ∅

end ServiceAtlas
