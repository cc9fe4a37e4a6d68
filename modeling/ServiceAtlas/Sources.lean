/-
Reading source files.

A directory stands for the source files that are listed below it, in the order of their names;
anything else stands for itself.  The first file that cannot be read ends the reading, and what
has been noticed by then is kept.

A directory that may not be read hides what is below it.  Where the tree does not say whether
there is a directory, or whether a listed name is that of a file, the reading ends without a
report, once the files before that have been read.
-/
import ServiceAtlas.FileTree
import ServiceAtlas.Notice
import ServiceAtlas.Java
import ServiceAtlas.Java.SyntaxCheck

namespace ServiceAtlas

/-- Why a source file gives no declarations. -/
inductive SourceDefect where
  | unreadable (f : FileFault)
  | undecodable (d : Utf8.Defect)
  deriving DecidableEq

/-- The wording of a defect. -/
def SourceDefect.message : SourceDefect → String
  | unreadable f => f.message
  | undecodable d => "not valid UTF-8 (" ++ d.message ++ ")"

/-- A source file that gives no declarations. -/
structure SourceFault where
  origin : String
  defect : SourceDefect
  deriving DecidableEq

/-- The wording of a fault. -/
def SourceFault.message (f : SourceFault) : String :=
  f.origin ++ ": " ++ f.defect.message

/-- What ends the reading of sources: a fault that is reported, or one that is not. -/
inductive SourceStop where
  | reported (f : SourceFault)
  | unreported (f : FileFault)
  deriving DecidableEq

/-- The outcome of reading sources, and what was noticed on the way. -/
structure Sourced (α : Type) where
  outcome : Except SourceStop α
  notices : List Notice

namespace Sources

/-- The ending of the names of source files. -/
def ending : String := ".java"

/-- The source files listed below a directory. -/
def below (t : FileTree) (path : FilePath) : Except FileFault (List FilePath) := do
  if ← t.isDirectory? path then
    let place ← t.place path
    if t.hidesBelow place ending then throw .denied
    return (t.filesBelow place ending).map path.append
  else return []

/-- The files that a path stands for. -/
def filesOf (t : FileTree) (path : FilePath) : Except FileFault (List FilePath) := do
  if ← t.isDirectory? path then below t path else return [path]

/-- The files that paths stand for, up to the first path for which this cannot be told. -/
def visited (t : FileTree) : List FilePath → List FilePath × Option FileFault
  | [] => ([], none)
  | path :: paths =>
    match filesOf t path with
    | .error f => ([], some f)
    | .ok files =>
      let (more, stop) := visited t paths
      (files ++ more, stop)

/-- The text of a file. -/
def text (t : FileTree) (path : FilePath) : Except SourceStop (List Char) :=
  match t.read path with
  | .error .nullCharacter => .error (.unreported .nullCharacter)
  | .error f => .error (.reported ⟨path.text, .unreadable f⟩)
  | .ok bytes =>
    match Utf8.decode bytes with
    | .error d => .error (.reported ⟨path.text, .undecodable d⟩)
    | .ok cs => .ok cs

/-- The notices about a source text. -/
def noticesOf (origin : String) (source : List Char) : List Notice :=
  if Java.hasSyntaxFault (Java.tokens (Java.withoutOrderMark source)) then
    [.partialSyntax origin]
  else []

/-- The declarations of files, in order. -/
def readFiles (t : FileTree) : List FilePath → Sourced (List Declaration)
  | [] => ⟨.ok [], []⟩
  | path :: paths =>
    match text t path with
    | .error stop => ⟨.error stop, []⟩
    | .ok source =>
      let rest := readFiles t paths
      ⟨rest.outcome.map (Java.declarations source path.text ++ ·),
        noticesOf path.text source ++ rest.notices⟩

/-- The declarations of the files that paths stand for, in order. -/
def read (t : FileTree) (paths : List FilePath) : Sourced (List Declaration) :=
  let (files, stop) := visited t paths
  let found := readFiles t files
  match found.outcome, stop with
  | .error _, _ => found
  | .ok _, some f => { found with outcome := .error (.unreported f) }
  | .ok ds, none => { found with notices := found.notices ++ [.sourcesRead files.length ds.length] }

end Sources

end ServiceAtlas
