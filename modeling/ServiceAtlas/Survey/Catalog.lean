/-
The catalog of a list of declarations.

Declarations are read in order; interfaces whose accessors describe data come after all
other models.  Then the injected collaborators are attached to the endpoints.
-/
import ServiceAtlas.Role
import ServiceAtlas.Catalog
import ServiceAtlas.Survey.Models
import ServiceAtlas.Survey.Endpoints
import ServiceAtlas.Survey.Edges

namespace ServiceAtlas

namespace Survey

/-- What the reading of one declaration finds: models, endpoints, or an interface that is
to be read later. -/
structure Findings where
  models : List Model
  endpoints : List Endpoint
  interfaces : List Declaration

namespace Findings

/-- Nothing has been found. -/
def none : Findings :=
  ⟨[], [], []⟩

/-- The findings of a declaration and of those after it. -/
def append (a b : Findings) : Findings :=
  ⟨a.models ++ b.models, a.endpoints ++ b.endpoints, a.interfaces ++ b.interfaces⟩

end Findings

variable (h : Heuristics) (effects : EffectTable)

/-- Read one declaration according to its role. -/
def findings (d : Declaration) : Survey Findings :=
  match d.role h with
  | .model => do
    let m ← model effects d
    return { Findings.none with models := [m] }
  | .controller => do
    let es ← endpoints h d
    return { Findings.none with endpoints := es }
  | .skip => do
    note (.skipped d.qualifiedName)
    return { Findings.none with interfaces := if d.isModelInterface h then [d] else [] }

/-- Read declarations in order. -/
def allFindings : List Declaration → Survey Findings
  | [] => done Findings.none
  | d :: ds => do
    let first ← findings h effects d
    let rest ← allFindings ds
    return first.append rest

/-- The notices for models whose name an earlier model has. -/
def duplicateNotices (seen : List String) : List Model → List Notice
  | [] => []
  | m :: ms =>
    if seen.contains m.name then .duplicateModel m.name :: duplicateNotices seen ms
    else duplicateNotices (m.name :: seen) ms

/-- The catalog of a list of declarations. -/
def catalog (ds : List Declaration) : Survey Catalog := do
  let found ← allFindings h effects ds
  let mined ← each (interfaceModel effects) found.interfaces
  let models := found.models ++ mined
  let edges := Edge.all h ds
  noteAll (duplicateNotices [] models)
  note (.surveyed found.endpoints.length models.length ds.length)
  let start : Catalog := ⟨Edge.attachAll edges found.endpoints, models, []⟩
  return (Edge.injectedTargets edges).foldl Catalog.addComponent start

end Survey

end ServiceAtlas
