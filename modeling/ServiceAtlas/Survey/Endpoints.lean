/-
Endpoints read from controllers.

A method with a mapping annotation is an endpoint.  Its path continues the path of the
controller, its parameters are those with a path or a query annotation, and texts come from
the documentation before they come from annotations.  A mapping whose verb endpoints cannot
have is reported and left out.
-/
import ServiceAtlas.Survey
import ServiceAtlas.Endpoint.Path
import ServiceAtlas.Settings.Heuristics

namespace ServiceAtlas

/-- The path of a mapping annotation. -/
def Mark.mappingPath (a : Mark) : String :=
  (a.text? ["value", "path"]).getD ""

/-- The verb of a mapping annotation.  The generic mapping names it by the last part of its
attribute and means GET without one. -/
def Mark.verb? (h : Heuristics) (mapping : Mark) : Option Verb :=
  match h.verbMarks.get? mapping.name with
  | some name => Verb.ofName? name
  | none =>
    match mapping.text? ["method"] with
    | none => some .get
    | some text =>
      if text.isEmpty then some .get
      else Verb.ofName? (String.ofList (Text.upper (Text.afterLast '.' text.toList)))

namespace Survey

variable (h : Heuristics)

/-- A request parameter for a formal one. -/
def requestParameter (m : Method) (p : Parameter) (a : Mark) (place : Place)
    (required : Bool) : Survey RequestParameter := do
  let type ← typeRef p.type
  let name := (a.text? ["value", "name"]).getD ""
  return {
    name := if name.isEmpty then p.name else name
    place := place
    required := required
    description := (m.documentation.params.get? p.name).getD ""
    type := type }

/-- The request parameter that a formal parameter stands for, if it does; a path annotation
counts before a query annotation. -/
def requestParameter? (m : Method) (p : Parameter) : Survey (Option RequestParameter) :=
  match Mark.find? p.marks h.pathMarks with
  | some a => some <$> requestParameter m p a .path true
  | none =>
    match Mark.find? p.marks h.queryMarks with
    | some a => some <$> requestParameter m p a .query ((a.flag? "required").getD true)
    | none => return none

/-- The request parameters of a method. -/
def requestParameters (m : Method) : Survey (List RequestParameter) := do
  let found ← each (requestParameter? h m) m.parameters
  return found.filterMap id

/-- The parameter that takes the body of the request. -/
def bodyParameter? (m : Method) : Option Parameter :=
  m.parameters.find? fun p => Mark.any p.marks h.bodyMarks

/-- The type of the body of the request, if a parameter takes it. -/
def requestBody (m : Method) : Survey (Option TypeRef) :=
  match bodyParameter? h m with
  | none => return none
  | some p => some <$> typeRef p.type

/-- The text if it is not empty, else the first attribute that is present. -/
def textOr (text : String) (operation : Option Mark) (keys : List String) : String :=
  if text.isEmpty then (operation.bind (·.text? keys)).getD "" else text

/-- The summary and the description of a method. -/
def operationText (m : Method) : String × String :=
  let operation := Mark.find? m.marks h.operationMarks
  (textOr m.documentation.summary operation ["summary", "value"],
    textOr m.documentation.description operation ["description", "notes"])

/-- A name without the ending, if it has it and more. -/
def withoutEnding (ending name : List Char) : List Char :=
  if ending.isSuffixOf name then name.take (name.length - ending.length) else name

/-- The tags of a controller: those of its grouping annotation, else its name without the
usual ending. -/
def controllerTags (d : Declaration) : List String :=
  let named :=
    match Mark.find? d.marks h.groupingMarks with
    | none => []
    | some a => (a.texts ["name", "tags", "value"]).filter fun name => !name.isEmpty
  if named.isEmpty then
    let short := withoutEnding h.controllerSuffix.toList d.name.toList
    [if short.isEmpty then d.name else String.ofList short]
  else named

/-- The path of a controller. -/
def controllerPath (d : Declaration) : String :=
  match Mark.find? d.marks [h.genericMark] with
  | none => ""
  | some a => a.mappingPath

/-- The endpoint of a method with a mapping for a verb. -/
def endpoint (d : Declaration) (m : Method) (mapping : Mark) (verb : Verb) :
    Survey Endpoint := do
  let (summary, description) := operationText h m
  let parameters ← requestParameters h m
  let requestBody ← requestBody h m
  let response ← typeRef m.returnType
  return {
    path := Path.join (controllerPath h d) mapping.mappingPath
    verb := verb
    summary := summary
    description := description
    tags := controllerTags h d
    parameters := parameters
    requestBody := requestBody
    response := response
    controllerName := d.name
    controllerScope := d.scope
    dependencies := []
    deprecated := Mark.any m.marks [h.deprecationMark] }

/-- The endpoint of a method, if it has a mapping for a verb that endpoints can have. -/
def endpoint? (d : Declaration) (m : Method) : Survey (Option Endpoint) :=
  match Mark.find? m.marks h.mappingMarks with
  | none => return none
  | some mapping =>
    match mapping.verb? h with
    | none => do
      note (.unsupportedVerb d.qualifiedName m.name (mapping.get? "method"))
      return none
    | some verb => some <$> endpoint h d m mapping verb

/-- The endpoints of a controller. -/
def endpoints (d : Declaration) : Survey (List Endpoint) := do
  let found ← each (endpoint? h d) d.methods
  let found := found.filterMap id
  note (.controllerRead d.qualifiedName found.length)
  return found

end Survey

end ServiceAtlas
