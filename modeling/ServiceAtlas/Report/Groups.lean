/-
Groups of endpoints.

An endpoint belongs to the group of its first tag.  Without one it belongs to the group of
its first path segment behind those that all endpoints share, and without such a segment to
the default group.
-/
import ServiceAtlas.Endpoint
import ServiceAtlas.Endpoint.Path

namespace ServiceAtlas.Report

/-- The group of endpoints that nothing else tells apart. -/
def defaultGroup : String := "Default"

/-- The group of an endpoint whose path has the given segments, `shared` of them common to
all endpoints. -/
def groupOf (shared : Nat) (tags : List String) (segments : List String) : String :=
  let tag := tags.headD ""
  if tag.isEmpty then
    match segments.drop shared with
    | segment :: _ => Text.capitalized segment
    | [] => defaultGroup
  else tag

/-- The group of each endpoint. -/
def groups (es : List Endpoint) : List String :=
  let segments := es.map fun e => Path.segments e.path
  let shared := (Path.sharedSegments segments).length
  es.map fun e => groupOf shared e.tags (Path.segments e.path)

end ServiceAtlas.Report
