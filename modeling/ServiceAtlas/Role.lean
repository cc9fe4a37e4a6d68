/-
The role that a declaration plays in a service.

A class with a controller annotation and no advice annotation is a controller.  Anything
else that is neither an interface, an annotation type nor abstract is a model if its scope
contains no infrastructure word and it has a model annotation, lies in a model scope, or is
an enumeration or a record.  Words are looked for anywhere in the scope, without regard to
case.
-/
import ServiceAtlas.Declaration
import ServiceAtlas.Settings.Heuristics
import ServiceAtlas.Text.Split

namespace ServiceAtlas

/-- What a declaration is taken for. -/
inductive Role where
  | model
  | controller
  | skip
  deriving DecidableEq, Inhabited

/-- The word for a role. -/
def Role.word : Role → String
  | model => "model"
  | controller => "controller"
  | skip => "skip"

namespace Declaration

/-- The scope contains one of the words. -/
def scopeContains (d : Declaration) (words : List String) : Bool :=
  let scope := Text.lower d.scope.toList
  words.any fun word => Text.occursIn (Text.lower word.toList) scope

/-- The scope contains an infrastructure word. -/
def inInfrastructure (h : Heuristics) (d : Declaration) : Bool :=
  d.scopeContains h.infrastructureWords

/-- The scope contains a model word. -/
def inModelScope (h : Heuristics) (d : Declaration) : Bool :=
  d.scopeContains h.modelWords

/-- A class that handles requests and gives no advice to other controllers. -/
def isController (h : Heuristics) (d : Declaration) : Bool :=
  d.kind = .plainClass && Mark.any d.marks h.controllerMarks
    && !Mark.any d.marks h.adviceMarks

/-- A concrete type that holds data. -/
def isModel (h : Heuristics) (d : Declaration) : Bool :=
  !(d.kind = .interface || d.kind = .annotationType || d.isAbstract)
    && !d.inInfrastructure h
    && (Mark.any d.marks h.modelMarks || d.inModelScope h
      || d.kind = .enumeration || d.kind = .record)

/-- An interface whose accessors describe data. -/
def isModelInterface (h : Heuristics) (d : Declaration) : Bool :=
  d.kind = .interface && !d.inInfrastructure h
    && (Mark.any d.marks h.modelMarks || d.inModelScope h)

/-- The role of a declaration; being a controller comes first. -/
def role (h : Heuristics) (d : Declaration) : Role :=
  if d.isController h then .controller
  else if d.isModel h then .model
  else .skip

end Declaration

end ServiceAtlas
