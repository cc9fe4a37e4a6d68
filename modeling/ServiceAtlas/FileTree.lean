/-
Files and directories.

A tree is a map from places to contents and a list of directories; a place is the list of
names that leads to it from the root.  Whatever a known place leads through is a directory
too, and so is the working directory, where relative paths begin.

What may not be done with a file or a directory is barred at its place.  A directory that may
not be read keeps its names to itself, and one that may not be searched lets no path through;
the two are independent, so a name may be seen whose bearer cannot be asked for anything.
-/
import ServiceAtlas.FilePath
import ServiceAtlas.OrderedMap
import ServiceAtlas.Encoding.Utf8

namespace ServiceAtlas

/-- A place in a tree. -/
abbrev FilePlace := List String

/-- What can be asked of a file or a directory. -/
inductive Access where
  | read
  | write
  | search
  deriving DecidableEq

/-- Why there is nothing to read or to write at a place. -/
inductive FileFault where
  | missing
  | notDirectory
  | isDirectory
  | isFile
  | denied
  | nameTooLong
  /-- A path with a null character leads nowhere, and no file system is asked for it. -/
  | nullCharacter
  deriving DecidableEq

namespace FileFault

/-- The wording of a fault. -/
def message : FileFault → String
  | missing => "No such file or directory"
  | notDirectory => "Not a directory"
  | isDirectory => "Is a directory"
  | isFile => "File exists"
  | denied => "Permission denied"
  | nameTooLong => "File name too long"
  | nullCharacter => "embedded null byte"

/-- The number that a fault of the file system goes by. -/
def number? : FileFault → Option Nat
  | missing => some 2
  | notDirectory => some 20
  | isDirectory => some 21
  | isFile => some 17
  | denied => some 13
  | nameTooLong => some 36
  | nullCharacter => none

/-- The fault says that there is nothing, and not that this cannot be told. -/
def isAbsence : FileFault → Bool
  | missing => true
  | notDirectory => true
  | nullCharacter => true
  | _ => false

end FileFault

/-- Files, directories, the working directory, and what is barred where. -/
structure FileTree where
  files : OrderedMap FilePlace Utf8.Bytes
  directories : List FilePlace
  base : FilePlace
  barred : List (FilePlace × Access)

namespace FileTree

/-- What a place can be. -/
inductive Entry where
  | file (content : Utf8.Bytes)
  | directory

/-- The tree without files. -/
def empty : FileTree :=
  ⟨∅, [], [], []⟩

instance : EmptyCollection FileTree := ⟨empty⟩

/-- A known place leads through the given one, or is a directory there. -/
def leadsThrough (t : FileTree) (place : FilePlace) : Bool :=
  place.isPrefixOf t.base || t.directories.any place.isPrefixOf
    || t.files.keys.any place.isPrefixOf

/-- What stands at a place. -/
def entry? (t : FileTree) (place : FilePlace) : Option Entry :=
  match t.files.get? place with
  | some content => some (.file content)
  | none => if t.leadsThrough place then some .directory else none

/-- There is a directory at the place. -/
def isDirectoryAt (t : FileTree) (place : FilePlace) : Bool :=
  match t.entry? place with
  | some .directory => true
  | _ => false

/-- There is a file at the place. -/
def isFileAt (t : FileTree) (place : FilePlace) : Bool :=
  (t.files.get? place).isSome

/-- What stands at the place may be used in this way. -/
def allows (t : FileTree) (a : Access) (place : FilePlace) : Bool :=
  !t.barred.contains (place, a)

/-! ### Paths -/

/-- The greatest number of bytes of a name. -/
def maxNameBytes : Nat := 255

/-- The greatest number of bytes of a path. -/
def maxPathBytes : Nat := 4095

/-- The number of bytes of a text. -/
def byteLength (text : String) : Nat :=
  (Utf8.encode text.toList).length

/-- The place next to a directory that a part leads to. -/
def stepTo (here : FilePlace) (part : String) : FilePlace :=
  if part.isEmpty || part = "." then here
  else if part = FilePath.up then here.dropLast
  else here ++ [part]

/-- The place that one part leads to.  A part leads on from a directory that may be searched;
an empty one, behind a slash at the end, asks for a directory only. -/
def step (t : FileTree) (here : FilePlace) (part : String) : Except FileFault FilePlace :=
  match t.entry? here with
  | none => .error .missing
  | some (.file _) => .error .notDirectory
  | some .directory =>
    if part.isEmpty then .ok here
    else if !t.allows .search here then .error .denied
    else if maxNameBytes < byteLength part then .error .nameTooLong
    else .ok (stepTo here part)

/-- The place that parts lead to from a place.  The place they end at need not be there. -/
def follow (t : FileTree) : FilePlace → List String → Except FileFault FilePlace
  | here, [] => .ok here
  | here, part :: parts => do t.follow (← t.step here part) parts

/-- The place where a path begins. -/
def start (t : FileTree) (path : FilePath) : FilePlace :=
  if path.root.isEmpty then t.base else []

/-- The place that parts lead to from a place if nothing is in their way. -/
def descend (here : FilePlace) (parts : List String) : FilePlace :=
  parts.foldl (fun here part => if part = FilePath.up then here.dropLast else here ++ [part]) here

/-- The place that a path leads to if nothing is in its way. -/
def destination (t : FileTree) (path : FilePath) : FilePlace :=
  descend (t.start path) path.parts

/-- The text can be handed to the file system as a path. -/
def checkText (text : String) : Except FileFault Unit :=
  if text.toList.contains '\x00' then .error .nullCharacter
  else if maxPathBytes < byteLength text then .error .nameTooLong
  else .ok ()

/-- The place that a path leads to. -/
def place (t : FileTree) (path : FilePath) : Except FileFault FilePlace := do
  checkText path.text
  t.follow (t.start path) path.steps

/-- What a path leads to. -/
def find (t : FileTree) (path : FilePath) : Except FileFault Entry := do
  match t.entry? (← t.place path) with
  | some e => return e
  | none => throw .missing

/-- Whether the path leads to a directory.  Where there is nothing there is none, but other
faults leave the question open. -/
def isDirectory? (t : FileTree) (path : FilePath) : Except FileFault Bool :=
  match t.find path with
  | .ok .directory => .ok true
  | .ok (.file _) => .ok false
  | .error f => if f.isAbsence then .ok false else .error f

/-- The content of the file that a path leads to. -/
def read (t : FileTree) (path : FilePath) : Except FileFault Utf8.Bytes := do
  let place ← t.place path
  match t.entry? place with
  | none => throw .missing
  | some e =>
    if !t.allows .read place then throw .denied
    match e with
    | .file content => return content
    | .directory => throw .isDirectory

/-- The place of something that a text taken as a path leads to.  Unlike in the short form of
the path, a slash at the end asks for a directory, and the text must not be empty. -/
def placeOfText? (t : FileTree) (text : String) : Option FilePlace :=
  let parts := (Text.pieces '/' text.toList).map String.ofList
  match (do checkText text; t.follow (t.start (.ofText text)) parts) with
  | .ok place => if !text.isEmpty && (t.entry? place).isSome then some place else none
  | .error _ => none

/-! ### Listing -/

/-- Places in the order of their names, part by part. -/
def placeAtMost (p q : FilePlace) : Bool :=
  !decide (q < p)

/-- The name at the end of the parts ends as given. -/
def endsIn (ending : String) (parts : List String) : Bool :=
  ending.toList.isSuffixOf (parts.getLast?.getD "").toList

/-- The names on the way from a place are listed: each directory may be read, and those that
the way leads on from may be searched as well. -/
def isListed (t : FileTree) : FilePlace → List String → Bool
  | _, [] => true
  | here, [_] => t.allows .read here
  | here, name :: names =>
    t.allows .read here && t.allows .search here && t.isListed (here ++ [name]) names

/-- The heads of a list that are not empty. -/
def heads (parts : List String) : List (List String) :=
  (List.range parts.length).map fun n => parts.take (n + 1)

/-- The parts that lead from a place to all that stands below it. -/
def waysBelow (t : FileTree) (place : FilePlace) : List (List String) :=
  (t.base :: (t.directories ++ t.files.keys)).flatMap fun known =>
    if place.isPrefixOf known then heads (known.drop place.length) else []

/-- Below the place a name is listed that ends as given, and what it stands for cannot be told
because the directory that holds it may not be searched. -/
def hidesBelow (t : FileTree) (place : FilePlace) (ending : String) : Bool :=
  (t.waysBelow place).any fun parts =>
    endsIn ending parts && t.isListed place parts && !t.allows .search (place ++ parts.dropLast)

/-- The files listed below a place whose names end as given, in order, by the parts that lead
to them from there. -/
def filesBelow (t : FileTree) (place : FilePlace) (ending : String) : List FilePlace :=
  let isWanted (p : FilePlace) : Bool :=
    place.length < p.length && place.isPrefixOf p && endsIn ending (p.drop place.length)
      && t.isListed place (p.drop place.length)
  ((t.files.keys.filter isWanted).map (·.drop place.length)).mergeSort placeAtMost

/-! ### Writing -/

/-- The tree with a new directory where a path leads to. -/
def newDirectory (t : FileTree) (path : FilePath) : Except FileFault FileTree := do
  let place ← t.place path
  if (t.entry? place).isSome then throw .isFile
  else if !t.allows .write place.dropLast then throw .denied
  else return { t with directories := t.directories ++ [place] }

/-- The tree with a directory where a path leads to, be it new or not. -/
def tryDirectory (t : FileTree) (path : FilePath) : FileTree × Option FileFault :=
  match t.newDirectory path with
  | .ok made => (made, none)
  | .error .missing => (t, some .missing)
  | .error f =>
    match t.isDirectory? path with
    | .ok true => (t, none)
    | .ok false => (t, some f)
    | .error g => (t, some g)

/-- The tree with a directory where a path leads to, and with those above it that are missing.
The parts of the path are given from the last one back.  What has been made stays also if a
fault ends the making. -/
def makeFrom (t : FileTree) (root : String) : List String → FileTree × Option FileFault
  | [] => t.tryDirectory ⟨root, []⟩
  | part :: above =>
    let path : FilePath := ⟨root, (part :: above).reverse⟩
    match t.tryDirectory path with
    | (_, some .missing) =>
      match t.makeFrom root above with
      | (made, none) => made.tryDirectory path
      | stopped => stopped
    | done => done

/-- The tree with the directory that a path names, and what went wrong. -/
def makeDirectory (t : FileTree) (path : FilePath) : FileTree × Option FileFault :=
  t.makeFrom path.root path.parts.reverse

/-- The tree with a file where a path leads to. -/
def write (t : FileTree) (path : FilePath) (content : Utf8.Bytes) : Except FileFault FileTree := do
  let place ← t.place path
  let changed ←
    match t.entry? place with
    | some .directory => throw .isDirectory
    | some (.file _) => pure place
    | none => pure place.dropLast
  if !t.allows .write changed then throw .denied
  return { t with files := t.files.insert place content }

end FileTree

end ServiceAtlas
