/-
Paths of files.

A path is kept in its short form: empty parts and parts that stand for the place itself say
nothing and are dropped, while parts that lead back up stay.  Two slashes at the beginning,
and no more than two, are a root of their own.
-/
import ServiceAtlas.Text.Split

namespace ServiceAtlas

/-- A path: the slashes that it begins with, and its parts. -/
structure FilePath where
  root : String
  parts : List String
  deriving DecidableEq

namespace FilePath

open ServiceAtlas.Text

/-- The part that leads up. -/
def up : String := ".."

/-- The slashes that count at the beginning of a text. -/
def rootOf : List Char → String
  | ['/', '/'] => "//"
  | '/' :: '/' :: c :: _ => if c = '/' then "/" else "//"
  | '/' :: _ => "/"
  | _ => ""

/-- The path that a text denotes. -/
def ofText (text : String) : FilePath :=
  let parts := (pieces '/' text.toList).filter fun p => !p.isEmpty && p ≠ ['.']
  ⟨rootOf text.toList, parts.map String.ofList⟩

/-- The text of a path; the place itself is a full stop. -/
def text (p : FilePath) : String :=
  if p.root.isEmpty && p.parts.isEmpty then "."
  else p.root ++ joined "/" p.parts

/-- The parts that a path is followed by; the place itself is found by a full stop. -/
def steps (p : FilePath) : List String :=
  if p.root.isEmpty && p.parts.isEmpty then ["."] else p.parts

/-- The path of the directory that a path leads through last. -/
def parent (p : FilePath) : FilePath :=
  { p with parts := p.parts.dropLast }

/-- The path with more parts behind it. -/
def append (p : FilePath) (parts : List String) : FilePath :=
  { p with parts := p.parts ++ parts }

/-- The ending of the last part, with its full stop: what follows the last full stop, unless
it stands at the beginning or at the end. -/
def ending (p : FilePath) : String :=
  let name := (p.parts.getLast?.getD "").toList
  let after := afterLast '.' name
  let before := name.length - after.length
  if 1 < before && !after.isEmpty then String.ofList ('.' :: after) else ""

end FilePath

end ServiceAtlas
