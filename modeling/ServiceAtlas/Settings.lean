/-
Settings: naming rules and document style, checked against untyped data.

Every member is optional and replaces the standard one; unknown members are faults.
-/
import ServiceAtlas.Settings.Heuristics
import ServiceAtlas.Settings.DocumentStyle
import ServiceAtlas.Validation

namespace ServiceAtlas

/-- Everything that can be set. -/
structure Settings where
  heuristics : Heuristics
  document : DocumentStyle

/-- The settings used unless others are given. -/
def Settings.standard : Settings :=
  ⟨.standard, .standard⟩

instance : Inhabited Settings := ⟨.standard⟩

variable {α : Type} [HasView α]

/-- The entries of a map from strings to strings, each key before its value. -/
def Check.textEntries : List (Key × α) → Checked (List (String × String))
  | [] => .valid []
  | (k, v) :: rest =>
    let key : Checked String :=
      match k with
      | .text s => .valid s
      | k => .invalid [⟨[k.step, .name "[key]"], .stringType⟩]
    List.cons <$> (Prod.mk <$> key <*> (Check.text v).under k.step) <*> Check.textEntries rest

/-- A map from strings to strings. -/
def Check.textMap (v : α) : Checked (OrderedMap String String) :=
  match HasView.view v with
  | .entries es => OrderedMap.ofList <$> Check.textEntries es
  | _ => .fault .dictType

open Check

/-- A tuple of strings. -/
def Check.texts (v : α) : Checked (List String) :=
  listOf .tupleType text v

/-- Check naming rules. -/
def Heuristics.check (v : α) : Checked Heuristics :=
  let s := Heuristics.standard
  closed [
    "infrastructure_namespaces", "model_namespaces", "model_tags", "controller_tags",
    "advice_tags", "injection_tags", "service_suffixes", "service_keywords",
    "verb_mapping_tags", "generic_mapping_tag", "path_param_tags", "query_param_tags",
    "body_tags", "grouping_tags", "operation_tags", "deprecation_tag", "controller_suffix"]
    (fun es => Heuristics.mk
      <$> memberOr s.infrastructureWords ["infrastructure_namespaces"] texts es
      <*> memberOr s.modelWords ["model_namespaces"] texts es
      <*> memberOr s.modelMarks ["model_tags"] texts es
      <*> memberOr s.controllerMarks ["controller_tags"] texts es
      <*> memberOr s.adviceMarks ["advice_tags"] texts es
      <*> memberOr s.injectionMarks ["injection_tags"] texts es
      <*> memberOr s.serviceSuffixes ["service_suffixes"] texts es
      <*> memberOr s.serviceWords ["service_keywords"] texts es
      <*> memberOr s.verbMarks ["verb_mapping_tags"] textMap es
      <*> memberOr s.genericMark ["generic_mapping_tag"] text es
      <*> memberOr s.pathMarks ["path_param_tags"] texts es
      <*> memberOr s.queryMarks ["query_param_tags"] texts es
      <*> memberOr s.bodyMarks ["body_tags"] texts es
      <*> memberOr s.groupingMarks ["grouping_tags"] texts es
      <*> memberOr s.operationMarks ["operation_tags"] texts es
      <*> memberOr s.deprecationMark ["deprecation_tag"] text es
      <*> memberOr s.controllerSuffix ["controller_suffix"] text es) v

/-- Check a server. -/
def Server.check (v : α) : Checked Server :=
  closed ["url", "description"]
    (fun es => Server.mk <$> member ["url"] text es <*> memberOr "" ["description"] text es) v

/-- Check a document style. -/
def DocumentStyle.check (v : α) : Checked DocumentStyle :=
  let s := DocumentStyle.standard
  closed ["title", "version", "servers", "collection_types", "placeholder_types"]
    (fun es => DocumentStyle.mk
      <$> memberOr s.title ["title"] text es
      <*> memberOr s.version ["version"] text es
      <*> memberOr s.servers ["servers"] (listOf .listType Server.check) es
      <*> memberOr s.collectionTypes ["collection_types"] texts es
      <*> memberOr s.placeholderTypes ["placeholder_types"] texts es) v

/-- Check settings. -/
def Settings.check (v : α) : Checked Settings :=
  closed ["heuristics", "document"]
    (fun es => Settings.mk
      <$> memberOr .standard ["heuristics"] Heuristics.check es
      <*> memberOr .standard ["document"] DocumentStyle.check es) v

end ServiceAtlas
