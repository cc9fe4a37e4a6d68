/-
Declarations of Java source texts.
-/
import ServiceAtlas.Java.Reader
import ServiceAtlas.Java.Declarations

namespace ServiceAtlas.Java

/-- A text without the byte order mark that may stand at its beginning. -/
def withoutOrderMark : List Char → List Char
  | '\ufeff' :: cs => cs
  | cs => cs

/-- The compilation unit that a source text is. -/
def unit (source : List Char) : CompilationUnit :=
  Reader.unit (tokens (withoutOrderMark source))

/-- The declarations in a source text, which is known by the given name. -/
def declarations (source : List Char) (origin : String) : List Declaration :=
  (unit source).declarations origin

end ServiceAtlas.Java
