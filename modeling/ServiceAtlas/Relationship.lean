/-
Edges between declared types: injected collaborators and inheritance.
-/
import ServiceAtlas.Endpoint

namespace ServiceAtlas

/-- The kinds of edges: a collaborator is injected, a type is extended, an interface is
implemented. -/
inductive EdgeKind where
  | injection
  | specialization
  | realization
  deriving DecidableEq, Inhabited

namespace EdgeKind

/-- The word for a kind of edge. -/
def word : EdgeKind → String
  | injection => "INJECTS"
  | specialization => "EXTENDS"
  | realization => "IMPLEMENTS"

/-- All kinds of edges with their words. -/
def table : List (String × EdgeKind) :=
  [("INJECTS", injection), ("EXTENDS", specialization), ("IMPLEMENTS", realization)]

end EdgeKind

/-- An edge from a declared type to a type name. -/
structure Edge where
  source : String
  target : String
  kind : EdgeKind
  name : Option String
  injection : Option Injection
  sourceMethod : Option String
  targetMethod : Option String
  deriving DecidableEq, Inhabited

end ServiceAtlas
