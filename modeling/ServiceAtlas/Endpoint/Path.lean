/-
Paths of endpoints.

Joining puts exactly one slash between two parts, and an empty part behind changes nothing.
Segments are the non-empty pieces between slashes.
-/
import ServiceAtlas.Text.Blank
import ServiceAtlas.Text.Split

namespace ServiceAtlas.Path

/-- A path continued by another one. -/
def joinChars (base relative : List Char) : List Char :=
  if relative.isEmpty then base
  else Text.trimEndWhere (· = '/') base ++ '/' :: Text.trimStartWhere (· = '/') relative

/-- A path continued by another one. -/
def join (base relative : String) : String :=
  String.ofList (joinChars base.toList relative.toList)

/-- The non-empty pieces of a path between slashes. -/
def segmentChars (path : List Char) : List (List Char) :=
  (Text.pieces '/' path).filter fun piece => !piece.isEmpty

/-- The non-empty pieces of a path between slashes. -/
def segments (path : String) : List String :=
  (segmentChars path.toList).map String.ofList

/-- The longest list that two lists begin with. -/
def commonStart : List String → List String → List String
  | a :: as, b :: bs => if a = b then a :: commonStart as bs else []
  | _, _ => []

/-- The longest list of segments that all paths begin with; none if there is no path. -/
def sharedSegments : List (List String) → List String
  | [] => []
  | path :: paths => paths.foldl commonStart path

end ServiceAtlas.Path
