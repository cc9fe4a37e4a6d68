/-
Settings as named members, in the order in which they are declared.
-/
import ServiceAtlas.Settings
import ServiceAtlas.Json

namespace ServiceAtlas

/-- The members of the naming rules. -/
def Heuristics.members (h : Heuristics) : List (String × Json) :=
  [ ("infrastructure_namespaces", .strings h.infrastructureWords),
    ("model_namespaces", .strings h.modelWords),
    ("model_tags", .strings h.modelMarks),
    ("controller_tags", .strings h.controllerMarks),
    ("advice_tags", .strings h.adviceMarks),
    ("injection_tags", .strings h.injectionMarks),
    ("service_suffixes", .strings h.serviceSuffixes),
    ("service_keywords", .strings h.serviceWords),
    ("verb_mapping_tags", .ofMap .str h.verbMarks),
    ("generic_mapping_tag", .str h.genericMark),
    ("path_param_tags", .strings h.pathMarks),
    ("query_param_tags", .strings h.queryMarks),
    ("body_tags", .strings h.bodyMarks),
    ("grouping_tags", .strings h.groupingMarks),
    ("operation_tags", .strings h.operationMarks),
    ("deprecation_tag", .str h.deprecationMark),
    ("controller_suffix", .str h.controllerSuffix)]

/-- A server as JSON. -/
def Server.toJson (s : Server) : Json :=
  .obj [("url", .str s.url), ("description", .str s.description)]

/-- The members of a document style. -/
def DocumentStyle.members (d : DocumentStyle) : List (String × Json) :=
  [ ("title", .str d.title),
    ("version", .str d.version),
    ("servers", .arr (d.servers.map Server.toJson)),
    ("collection_types", .strings d.collectionTypes),
    ("placeholder_types", .strings d.placeholderTypes)]

end ServiceAtlas
