/-
Records from JSON.

A member is looked up under its camel case name and then under its snake case name; unknown
members are passed over.  Faults come in the order of the members of the record.
-/
import ServiceAtlas.Validation
import ServiceAtlas.RawForm.Writing

namespace ServiceAtlas

instance : HasView Json where
  view
    | .null => .null
    | .bool b => .bool b
    | .int n => .int n
    | .float x => .float x
    | .str s => .text s
    | .arr items => .items items
    | .obj members => .entries (members.map fun m => (.text m.1, m.2))

/-- A check that the string is not empty. -/
def Check.nonEmptyText (v : Json) : Checked String :=
  (Check.text v).andThen fun s => if s.isEmpty then .fault .stringTooShort else .valid s

/-- An object with values of any kind. -/
def Check.anyObject : Json → Checked (OrderedMap String Json)
  | .obj members => .valid (.ofList members)
  | _ => .fault .dictType

mutual

/-- Check a type reference. -/
def TypeRef.ofJson : Json → Checked TypeRef
  | .obj members =>
    TypeRef.mk <$> TypeRef.baseOf members
      <*> (match TypeRef.argsMember members with
        | some args => args.under (.name "args")
        | none => .valid [])
  | _ => .fault .modelType

/-- Check the base name among the members. -/
def TypeRef.baseOf : List (String × Json) → Checked String
  | [] => .invalid [⟨[.name "base"], .missing⟩]
  | (name, v) :: rest =>
    if name = "base" then (Check.nonEmptyText v).under (.name "base") else TypeRef.baseOf rest

/-- Check the arguments among the members, if they are present. -/
def TypeRef.argsMember : List (String × Json) → Option (Checked (List TypeRef))
  | [] => none
  | (name, v) :: rest => if name = "args" then some (TypeRef.argsOf v) else TypeRef.argsMember rest

/-- Check an array of type references. -/
def TypeRef.argsOf : Json → Checked (List TypeRef)
  | .arr items => TypeRef.argsFrom 0 items
  | _ => .fault .tupleType

/-- Check type references in order, numbered from the given position. -/
def TypeRef.argsFrom : Nat → List Json → Checked (List TypeRef)
  | _, [] => .valid []
  | i, v :: vs =>
    List.cons <$> (TypeRef.ofJson v).under (.index i) <*> TypeRef.argsFrom (i + 1) vs

end

open Check

/-- Check a property. -/
def Property.ofJson (v : Json) : Checked Property :=
  (record v).andThen fun es =>
    Property.mk
      <$> member ["name"] text es
      <*> memberOr none ["typeRef", "type_ref"] (optional TypeRef.ofJson) es
      <*> memberOr false ["required"] flag es
      <*> memberOr "" ["description"] text es
      <*> memberOr ∅ ["validationRules", "validation_rules"] anyObject es
      <*> memberOr none ["example"] (optional text) es
      <*> memberOr false ["deprecated"] flag es
      <*> memberOr none ["deprecationNotes", "deprecation_notes"] (optional text) es

/-- Check a model. -/
def Model.ofJson (v : Json) : Checked Model :=
  (record v).andThen fun es =>
    Model.mk
      <$> member ["name"] text es
      <*> memberOr "" ["description"] text es
      <*> memberOr [] ["fields"] (listOf .listType Property.ofJson) es
      <*> memberOr false ["isInterface", "is_interface"] flag es
      <*> memberOr false ["isEnum", "is_enum"] flag es
      <*> memberOr [] ["extendsList", "extends_list"] (listOf .listType text) es
      <*> memberOr [] ["implementsList", "implements_list"] (listOf .listType text) es
      <*> memberOr none ["example"] (optional text) es
      <*> memberOr false ["deprecated"] flag es
      <*> memberOr none ["deprecationNotes", "deprecation_notes"] (optional text) es
      <*> memberOr none ["since"] (optional text) es
      <*> memberOr ∅ ["extensions"] anyObject es

/-- Check a request parameter. -/
def RequestParameter.ofJson (v : Json) : Checked RequestParameter :=
  (record v).andThen fun es =>
    RequestParameter.mk
      <$> member ["name"] text es
      <*> member ["in", "location"] (oneOf Place.table) es
      <*> member ["required"] flag es
      <*> memberOr "" ["description"] text es
      <*> member ["type"] TypeRef.ofJson es

/-- Check a dependency. -/
def Dependency.ofJson (v : Json) : Checked Dependency :=
  (record v).andThen fun es =>
    Dependency.mk
      <$> member ["name"] text es
      <*> member ["type"] text es
      <*> member ["injectionType", "injection_type"] (oneOf Injection.table) es

/-- Check an endpoint. -/
def Endpoint.ofJson (v : Json) : Checked Endpoint :=
  (record v).andThen fun es =>
    Endpoint.mk
      <$> member ["path"] text es
      <*> member ["method"] (oneOf Verb.table) es
      <*> memberOr "" ["summary"] text es
      <*> memberOr "" ["description"] text es
      <*> memberOr [] ["tags"] (listOf .listType text) es
      <*> memberOr [] ["parameters"] (listOf .listType RequestParameter.ofJson) es
      <*> memberOr none ["requestBodyType", "request_body_type"] (optional TypeRef.ofJson) es
      <*> member ["responseType", "response_type"] TypeRef.ofJson es
      <*> memberOr "" ["controllerName", "controller_name"] text es
      <*> memberOr "" ["controllerPackage", "controller_package"] text es
      <*> memberOr [] ["dependencies"] (listOf .listType Dependency.ofJson) es
      <*> memberOr false ["deprecated"] flag es

/-- Check an edge. -/
def Edge.ofJson (v : Json) : Checked Edge :=
  (record v).andThen fun es =>
    Edge.mk
      <$> member ["sourceClass", "source_class"] text es
      <*> member ["targetClass", "target_class"] text es
      <*> member ["type"] (oneOf EdgeKind.table) es
      <*> memberOr none ["name"] (optional text) es
      <*> memberOr none ["injectionType", "injection_type"] (optional (oneOf Injection.table)) es
      <*> memberOr none ["sourceMethod", "source_method"] (optional text) es
      <*> memberOr none ["targetMethod", "target_method"] (optional text) es

end ServiceAtlas
