/-
The catalog of a service: its endpoints, its models and the components it injects.

Records are appended; a component that is present is not added again.
-/
import ServiceAtlas.Endpoint
import ServiceAtlas.Model

namespace ServiceAtlas

/-- Everything found out about a service. -/
structure Catalog where
  endpoints : List Endpoint
  models : List Model
  components : List String
  deriving Inhabited

namespace Catalog

/-- The catalog without records. -/
def empty : Catalog :=
  ⟨[], [], []⟩

/-- Append an endpoint. -/
def addEndpoint (c : Catalog) (e : Endpoint) : Catalog :=
  { c with endpoints := c.endpoints ++ [e] }

/-- Append a model. -/
def addModel (c : Catalog) (m : Model) : Catalog :=
  { c with models := c.models ++ [m] }

/-- Append a component unless it is present. -/
def addComponent (c : Catalog) (name : String) : Catalog :=
  if c.components.contains name then c
  else { c with components := c.components ++ [name] }

end Catalog

end ServiceAtlas
