/-
Tables of endpoints and of models.

A cell holds its text with single spaces and with bars escaped, and a dash in place of the
empty text.  Rows of endpoints are sorted by group and path, models by name; both sorts
keep the order of equal keys.
-/
import ServiceAtlas.Report.Groups
import ServiceAtlas.Model

namespace ServiceAtlas.Report

open ServiceAtlas.Text

/-- The text of a cell. -/
def cellChars (text : List Char) : List Char :=
  match replaceChar '|' ['\\', '|'] (squeeze text) with
  | [] => ['-']
  | cell => cell

/-- The text of a cell. -/
def cell (text : String) : String :=
  String.ofList (cellChars text.toList)

/-- The text, or a dash if it is empty. -/
def orDash (text : String) : String :=
  if text.isEmpty then "-" else text

/-- Lines with a line break behind each. -/
def linesText (ls : List String) : String :=
  joined "\n" ls ++ "\n"

/-- A parameter in the endpoint table. -/
def parameterText (p : RequestParameter) : String :=
  p.name ++ " (" ++ p.place.word ++ (if p.required then ", required" else "") ++ ")"

/-- A row of the endpoint table. -/
structure Row where
  group : String
  verb : String
  path : String
  parameters : String
  summary : String

/-- The row of an endpoint in a group. -/
def Row.ofEndpoint (e : Endpoint) (group : String) : Row where
  group := group
  verb := e.verb.name
  path := e.path
  parameters := joined ", " (e.parameters.map parameterText)
  summary := e.summary

/-- Rows are compared by group and then by path. -/
def Row.atMost (a b : Row) : Bool :=
  if a.group = b.group then decide (a.path ≤ b.path) else decide (a.group ≤ b.group)

/-- A row as a line. -/
def Row.line (r : Row) : String :=
  "| " ++ cell r.group ++ " | " ++ cell r.verb ++ " | `" ++ orDash r.path ++ "` | "
    ++ cell r.parameters ++ " | " ++ cell r.summary ++ " |"

/-- The rows of endpoints in the order of the table. -/
def endpointRows (es : List Endpoint) : List Row :=
  (List.zipWith Row.ofEndpoint es (groups es)).mergeSort Row.atMost

/-- The endpoint table. -/
def endpointTable (es : List Endpoint) : String :=
  linesText (
    "| Controller | Method | Path | Params | Description |"
      :: "|------------|--------|------|--------|-------------|"
      :: (endpointRows es).map Row.line)

/-- The line of a property in a model table. -/
def propertyLine (p : Property) : String :=
  let type := match p.type with
    | some t => t.text
    | none => ""
  "| " ++ cell p.name ++ " | " ++ cell type ++ " | " ++ (if p.required then "yes" else "no")
    ++ " | " ++ cell p.description ++ " |"

/-- The section of a model. -/
def modelSection (m : Model) : String :=
  linesText (
    ["### " ++ orDash m.name, "", "_Description_: " ++ cell m.description, "",
      "| Field | Type | Required | Description |",
      "|-------|------|----------|-------------|"]
      ++ (if m.properties.isEmpty then ["| - | - | - | - |"]
        else m.properties.map propertyLine))

/-- The models in the order of the table. -/
def sortedModels (ms : List Model) : List Model :=
  ms.mergeSort fun a b => decide (a.name ≤ b.name)

/-- The model table. -/
def modelTable (ms : List Model) : String :=
  joined "\n" ((sortedModels ms).map modelSection)

end ServiceAtlas.Report
