/-
Notices: what a run reports besides its result.

A notice is a cause with its particulars.  Its level, the part of the program that speaks
and its wording are functions of the cause.
-/
import ServiceAtlas.Endpoint
import ServiceAtlas.Decimal.Numeral

namespace ServiceAtlas

/-- How serious a notice is. -/
inductive Level where
  | debug
  | info
  | warning
  deriving DecidableEq

/-- The name of a level. -/
def Level.name : Level → String
  | debug => "DEBUG"
  | info => "INFO"
  | warning => "WARNING"

/-- Something worth reporting. -/
inductive Notice where
  /-- A source text has syntax errors and was read as far as possible. -/
  | partialSyntax (origin : String)
  /-- All sources have been read. -/
  | sourcesRead (files declarations : Nat)
  /-- A declaration is neither a controller nor a model. -/
  | skipped (declaration : String)
  /-- A mapping asks for a verb that endpoints cannot have. -/
  | unsupportedVerb (declaration method : String) (written : Option String)
  /-- A controller has been read. -/
  | controllerRead (declaration : String) (endpoints : Nat)
  /-- A length bound is no integer. -/
  | ignoredLength (mark key written property : String)
  /-- A numeric bound is no number. -/
  | ignoredBound (mark written property : String)
  /-- Two models have the same name. -/
  | duplicateModel (name : String)
  /-- All declarations have been read. -/
  | surveyed (endpoints models declarations : Nat)
  /-- Two endpoints have the same verb and path. -/
  | duplicateOperation (verb : Verb) (path controller : String)
  deriving DecidableEq

namespace Notice

/-- The level of a notice. -/
def level : Notice → Level
  | partialSyntax .. => .warning
  | sourcesRead .. => .info
  | skipped .. => .debug
  | unsupportedVerb .. => .warning
  | controllerRead .. => .debug
  | ignoredLength .. => .debug
  | ignoredBound .. => .debug
  | duplicateModel .. => .warning
  | surveyed .. => .info
  | duplicateOperation .. => .warning

/-- The part of the program that a notice comes from. -/
def speaker : Notice → String
  | partialSyntax .. => "autodoc.parser.java"
  | sourcesRead .. => "autodoc.parser.java"
  | skipped .. => "autodoc.extractor.classifier"
  | unsupportedVerb .. => "autodoc.extractor.endpoints"
  | controllerRead .. => "autodoc.extractor.endpoints"
  | ignoredLength .. => "autodoc.extractor.tags"
  | ignoredBound .. => "autodoc.extractor.tags"
  | duplicateModel .. => "autodoc.extractor.project"
  | surveyed .. => "autodoc.extractor.project"
  | duplicateOperation .. => "autodoc.generator.openapi"

/-- A count in decimal notation. -/
def count (n : Nat) : String :=
  String.ofList (Numeral.integerText n)

/-- The wording of a notice. -/
def message : Notice → String
  | partialSyntax origin => origin ++ ": syntax errors found, using the partial tree"
  | sourcesRead files declarations =>
    "Parsed " ++ count files ++ " files, " ++ count declarations ++ " type declarations"
  | skipped declaration => "Skipping " ++ declaration
  | unsupportedVerb declaration method written =>
    declaration ++ "." ++ method ++ ": unsupported HTTP method " ++ written.getD "None"
      ++ ", skipping"
  | controllerRead declaration endpoints => declaration ++ ": " ++ count endpoints ++ " endpoints"
  | ignoredLength mark key written property =>
    "Ignoring non-integer @" ++ mark ++ "(" ++ key ++ "=" ++ written ++ ") on " ++ property
  | ignoredBound mark written property =>
    "Ignoring non-numeric @" ++ mark ++ "(" ++ written ++ ") on " ++ property
  | duplicateModel name => "Duplicate model name " ++ name ++ "; later schema replaces earlier"
  | surveyed endpoints models declarations =>
    "Extracted " ++ count endpoints ++ " endpoints and " ++ count models ++ " models from "
      ++ count declarations ++ " declarations"
  | duplicateOperation verb path controller =>
    "Duplicate operation " ++ verb.name ++ " " ++ path ++ " from " ++ controller
      ++ " replaces an earlier one"

/-- A notice as a line of the log, without its line break. -/
def line (n : Notice) : String :=
  n.level.name ++ " " ++ n.speaker ++ ": " ++ n.message

end Notice

end ServiceAtlas
