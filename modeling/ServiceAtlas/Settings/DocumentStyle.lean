/-
What a document says about the service as a whole, and which type names it treats as
collections or as placeholders.
-/

namespace ServiceAtlas

/-- A server that offers the service. -/
structure Server where
  url : String
  description : String
  deriving DecidableEq, Inhabited

/-- The title, version and servers of a document, and its conventions on types. -/
structure DocumentStyle where
  title : String
  version : String
  servers : List Server
  collectionTypes : List String
  placeholderTypes : List String
  deriving DecidableEq

namespace DocumentStyle

/-- The style used unless another is given. -/
def standard : DocumentStyle where
  title := "Generated API Documentation"
  version := "1.0.0"
  servers := [⟨"https://api.example.com/v1", "Production server"⟩]
  collectionTypes := ["List", "Set", "Array"]
  placeholderTypes := ["?", "Object"]

instance : Inhabited DocumentStyle := ⟨standard⟩

end DocumentStyle

end ServiceAtlas
