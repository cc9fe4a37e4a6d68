/-
Edges read from declarations, and the dependencies of controllers.

A field that is not static is an injected collaborator when it carries an injection
annotation or when its type or its name looks like a service; a constructor parameter is
judged by names alone.  Injections of all declarations come before inheritance.
-/
import ServiceAtlas.Relationship
import ServiceAtlas.Settings.Heuristics
import ServiceAtlas.Text.Split
import ServiceAtlas.OrderedMap

namespace ServiceAtlas

namespace Heuristics

/-- The name ends like a service or contains a service word in any case. -/
def looksLikeService (h : Heuristics) (name : String) : Bool :=
  (h.serviceSuffixes.any fun ending => ending.toList.isSuffixOf name.toList)
    || h.serviceWords.any fun word =>
      Text.occursIn (Text.lower word.toList) (Text.lower name.toList)

/-- The field holds an injected collaborator. -/
def injectsField (h : Heuristics) (f : Field) : Bool :=
  !f.isStatic
    && (Mark.any f.marks h.injectionMarks || h.looksLikeService f.type.name
      || h.looksLikeService f.name)

/-- The constructor parameter is an injected collaborator. -/
def injectsParameter (h : Heuristics) (p : Parameter) : Bool :=
  h.looksLikeService p.type.name || h.looksLikeService p.name

end Heuristics

namespace Edge

/-- What a constructor is called as the source of an edge. -/
def constructorName : String := "<init>"

/-- The edge to a collaborator in a field. -/
def ofField (d : Declaration) (f : Field) : Edge where
  source := d.qualifiedName
  target := f.type.name
  kind := .injection
  name := some f.name
  injection := some .field
  sourceMethod := none
  targetMethod := none

/-- The edge to a collaborator that a constructor takes. -/
def ofParameter (d : Declaration) (p : Parameter) : Edge where
  source := d.qualifiedName
  target := p.type.name
  kind := .injection
  name := some p.name
  injection := some .constructor
  sourceMethod := some constructorName
  targetMethod := none

/-- The edge to a supertype. -/
def ofSupertype (kind : EdgeKind) (d : Declaration) (t : WrittenType) : Edge where
  source := d.qualifiedName
  target := t.name
  kind := kind
  name := none
  injection := none
  sourceMethod := none
  targetMethod := none

/-- The injected collaborators of a declaration: fields first, then constructors. -/
def injections (h : Heuristics) (d : Declaration) : List Edge :=
  (d.fields.filter h.injectsField).map (ofField d)
    ++ ((d.constructors.flatMap (·.parameters)).filter h.injectsParameter).map (ofParameter d)

/-- The supertypes of a declaration; an interface extends those that other types implement. -/
def inheritance (d : Declaration) : List Edge :=
  d.superclass.toList.map (ofSupertype .specialization d)
    ++ d.interfaces.map
      (ofSupertype (if d.kind = .interface then .specialization else .realization) d)

/-- All edges of a list of declarations. -/
def all (h : Heuristics) (ds : List Declaration) : List Edge :=
  ds.flatMap (injections h) ++ ds.flatMap inheritance

/-- The dependency that an injection edge stands for. -/
def dependency (e : Edge) : Dependency where
  name := e.name.getD ""
  type := e.target
  injection := e.injection.getD .field

/-- A grouping with one more edge taken in. -/
def addToGroup (groups : OrderedMap String (List Dependency)) (e : Edge) :
    OrderedMap String (List Dependency) :=
  if e.kind = .injection then
    groups.insert e.source ((groups.get? e.source).getD [] ++ [e.dependency])
  else groups

/-- The dependencies of each source, sources in order of their first injection. -/
def dependencies (edges : List Edge) : OrderedMap String (List Dependency) :=
  edges.foldl addToGroup ∅

/-- An endpoint with the dependencies of its controller, if there are any. -/
def attach (groups : OrderedMap String (List Dependency)) (e : Endpoint) : Endpoint :=
  match groups.get? e.controller with
  | some ds => { e with dependencies := ds }
  | none => e

/-- Endpoints with the dependencies of their controllers. -/
def attachAll (edges : List Edge) (es : List Endpoint) : List Endpoint :=
  es.map (attach (dependencies edges))

/-- The targets of injections. -/
def injectedTargets (edges : List Edge) : List String :=
  (edges.filter (·.kind = .injection)).map (·.target)

end Edge

end ServiceAtlas
