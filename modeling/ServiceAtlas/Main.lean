/-
The program.

The files that the words of the command line can lead to are read first; the run itself is a
function of them.  What the run has written is written to disk afterwards.
-/
import ServiceAtlas.CommandLine.Run
import ServiceAtlas.Yaml.Value

namespace ServiceAtlas.Disk

open ServiceAtlas

/-- The texts within a word that can be paths: the word, and what follows an equals sign or
a letter behind a hyphen. -/
def candidates (word : String) : List String :=
  let cs := word.toList
  let attached := ((Text.cut '=' cs).2.map String.ofList).toList
  let behindLetter : List String := if cs.head? = some '-' then [String.ofList (cs.drop 2)] else []
  word :: attached ++ behindLetter

/-- What comes of an action, unless the disk refuses it. -/
def granted? {α : Type} (action : IO α) : IO (Option α) :=
  try return some (← action) catch _ => return none

/-- A tree in which the place is barred. -/
def bar (a : Access) (place : FilePlace) (t : FileTree) : FileTree :=
  { t with barred := t.barred ++ [(place, a)] }

/-- A tree with what stands at a place on disk; the content of a file is read if it was named
or holds sources.  What the disk does not let be read or searched is barred, and of what is in
a directory that may not be searched only the names are known. -/
partial def load (isNamed deep : Bool) (place : FilePlace) (t : FileTree) : IO FileTree := do
  let here := (← IO.currentDir) / (FilePath.mk "/" place).text
  if !(← here.pathExists) then return t
  else if ← here.isDir then
    let isSearchable ← (here / ".").pathExists
    let mut t := { t with directories := t.directories ++ [place] }
    if !isSearchable then t := bar .search place t
    match ← granted? here.readDir with
    | none => return bar .read place t
    | some entries =>
      if deep then
        for entry in entries do
          let below := place ++ [entry.fileName]
          if isSearchable then t ← load false true below t
          else t := { t with files := t.files.insert below [] }
      return t
  else
    let isSource := Sources.ending.toList.isSuffixOf (place.getLast?.getD "").toList
    let content? ← if isNamed || isSource then granted? (IO.FS.readBinFile here) else pure (some .empty)
    let t := { t with files := t.files.insert place ((content?.getD .empty).toList) }
    return if content?.isNone then bar .read place t else t

/-- A tree with everything that a text taken as a path can lead to or through. -/
def loadText (text : String) (t : FileTree) : IO FileTree := do
  let path := FilePath.ofText text
  let mut t := t
  for n in List.range path.parts.length do
    t ← load false false (t.destination { path with parts := path.parts.take n }) t
  load true true (t.destination path) t

/-- The tree that a run with the given words can see. -/
def loadAll (words : List String) : IO FileTree := do
  let base := (FilePath.ofText (← IO.currentDir).toString).parts
  let mut t : FileTree := ⟨∅, [], base, []⟩
  for text in words.flatMap candidates do
    if !text.isEmpty then
      t ← loadText text t
  return t

/-- The text of a place on disk. -/
def placeText (place : FilePlace) : String :=
  (FilePath.mk "/" place).text

/-- Write what is new in a tree. -/
def saveNew (old new : FileTree) : IO Unit := do
  for place in new.directories do
    if !old.isDirectoryAt place then IO.FS.createDirAll (placeText place)
  for (place, content) in new.files.entries do
    if old.files.get? place ≠ some content then
      IO.FS.writeBinFile (placeText place) ⟨content.toArray⟩

/-- The wording of what ends a run without a report of its own. -/
def crashMessage : CommandLine.Crash → String
  | .settings (.undecodable d) => "settings file: not valid UTF-8 (" ++ d.message ++ ")"
  | .settings .keyNotText => "settings file: the names of settings must be strings"
  | .settings _ => "settings file: a value cannot be read"
  | .types _ => "malformed type"
  | .files f => f.message

/-- Run the program on disk.  Whether it can be written to is found out by writing. -/
def run (words : List String) : IO UInt32 := do
  let before ← loadAll words
  let outcome := CommandLine.run Yaml.Value.ofText before words
  if (← granted? (saveNew before outcome.files)).isNone then
    IO.eprintln "the files cannot be written"
    return 1
  IO.print outcome.printed
  IO.eprint outcome.reported
  if let some c := outcome.crash then IO.eprintln (crashMessage c)
  return .ofNat outcome.exitCode

end ServiceAtlas.Disk

/-- The program with the words of its command line. -/
def main (words : List String) : IO UInt32 :=
  ServiceAtlas.Disk.run words
