/-
The naming rules by which declarations are read: which annotations, package words and name
endings mark models, controllers, collaborators and parameters.
-/
import ServiceAtlas.OrderedMap

namespace ServiceAtlas

/-- Annotation names, package words and naming rules. -/
structure Heuristics where
  infrastructureWords : List String
  modelWords : List String
  modelMarks : List String
  controllerMarks : List String
  adviceMarks : List String
  injectionMarks : List String
  serviceSuffixes : List String
  serviceWords : List String
  verbMarks : OrderedMap String String
  genericMark : String
  pathMarks : List String
  queryMarks : List String
  bodyMarks : List String
  groupingMarks : List String
  operationMarks : List String
  deprecationMark : String
  controllerSuffix : String

namespace Heuristics

/-- The rules used unless others are given. -/
def standard : Heuristics where
  infrastructureWords :=
    ["service", "repository", "repo", "config", "controller", "util", "handler"]
  modelWords := ["model", "models", "dto", "dtos", "entity", "entities", "domain"]
  modelMarks :=
    ["Entity", "Data", "Table", "JsonProperty", "JsonInclude", "Schema", "ApiModel",
      "Document", "Embeddable", "Value"]
  controllerMarks := ["RestController", "Controller"]
  adviceMarks := ["ControllerAdvice", "RestControllerAdvice"]
  injectionMarks := ["Autowired", "Inject", "Resource", "Value"]
  serviceSuffixes :=
    ["Service", "Manager", "Processor", "Handler", "Delegate", "Provider", "Helper"]
  serviceWords := ["service", "repository"]
  verbMarks := .ofList [
    ("GetMapping", "GET"), ("PostMapping", "POST"), ("PutMapping", "PUT"),
    ("DeleteMapping", "DELETE"), ("PatchMapping", "PATCH")]
  genericMark := "RequestMapping"
  pathMarks := ["PathVariable"]
  queryMarks := ["RequestParam"]
  bodyMarks := ["RequestBody"]
  groupingMarks := ["Tag", "Api"]
  operationMarks := ["Operation", "ApiOperation"]
  deprecationMark := "Deprecated"
  controllerSuffix := "Controller"

instance : Inhabited Heuristics := ⟨standard⟩

/-- The annotations that make a method an endpoint. -/
def mappingMarks (h : Heuristics) : List String :=
  h.verbMarks.keys ++ [h.genericMark]

end Heuristics

end ServiceAtlas
