/-
Runs of the program.

A run is a function of the files that are there and the words of the command line: it gives
an exit code, what is printed, and the files that are there afterwards.  How the text of a
settings file is read as a value is given to it as well.  Files are written last, when nothing
else can go wrong, so a run that ends with a reported fault leaves the files as they were.
-/
import ServiceAtlas.CommandLine.Command
import ServiceAtlas.Sources
import ServiceAtlas.Survey.Catalog
import ServiceAtlas.OpenApi.Document
import ServiceAtlas.Report.Map
import ServiceAtlas.Json.Layout
import ServiceAtlas.Yaml.Layout

namespace ServiceAtlas.CommandLine

/-- What ends a run without a report. -/
inductive Crash where
  | settings (f : Settings.LoadFault)
  | types (f : TypeRef.Malformed)
  | files (f : FileFault)

/-- The outcome of a run. -/
structure Outcome where
  exitCode : Nat
  printed : String
  reported : String
  files : FileTree
  crash : Option Crash

namespace Outcome

/-- A run that ends with a fault in the use of the command line. -/
def misused (t : FileTree) (s : Synopsis) (f : UsageFault) : Outcome :=
  ⟨2, "", f.report s, t, none⟩

/-- A run that shows how to use the program. -/
def helped (t : FileTree) (s : Synopsis) : Outcome :=
  ⟨0, s.line, "", t, none⟩

/-- A run that ends with a reported fault. -/
def failed (t : FileTree) (printed reported message : String) : Outcome :=
  ⟨1, printed, reported ++ "Error: " ++ message ++ "\n", t, none⟩

/-- A run that ends without a report. -/
def crashed (t : FileTree) (printed reported : String) (c : Crash) : Outcome :=
  ⟨1, printed, reported, t, some c⟩

end Outcome

/-! ### Reports -/

/-- The notice is reported. -/
def isReported (verbose : Bool) (n : Notice) : Bool :=
  verbose || n.level = .warning

/-- The lines that report notices. -/
def log (verbose : Bool) (ns : List Notice) : String :=
  String.join ((ns.filter (isReported verbose)).map fun n => n.line ++ "\n")

/-- What is printed before the sources are read. -/
def startLine (sources : Nat) : String :=
  "Parsing " ++ Notice.count sources ++ " source path(s)...\n"

/-- What is printed when all declarations have been read. -/
def foundLine (c : Catalog) : String :=
  "Found " ++ Notice.count c.endpoints.length ++ " endpoints and "
    ++ Notice.count c.models.length ++ " models.\n"

/-- What is printed when a file has been written. -/
def savedLine (path : FilePath) : String :=
  "Saved " ++ path.text ++ "\n"

/-! ### Products -/

/-- A file to be written. -/
structure Product where
  path : FilePath
  text : List Char

/-- The document style with the members that the flags replace; a blank flag replaces
nothing. -/
def restyled (style : DocumentStyle) (info servers : Option String) :
    Except Flags.ServerFault DocumentStyle := do
  let named := Flags.pairs (info.getD "").toList
  let style :=
    { style with
      title := (named.get? "title").getD style.title
      version := (named.get? "version").getD style.version }
  match servers.filter (!·.isEmpty) with
  | none => return style
  | some text => return { style with servers := ← Flags.servers text.toList }

/-- The text of a document. -/
def documentText (format : Format) (d : OpenApi.Document) : List Char :=
  match format with
  | .json => (Json.layout d.toJson).toList
  | .yaml => Yaml.Layout.text d.toJson

/-- The files that a command makes of a catalog, and what is noticed on the way. -/
def products (c : Command) (style : DocumentStyle) (found : Catalog) :
    List Product × List Notice :=
  match c.action with
  | .extract => ([⟨c.output, (Json.layout found.toJson).toList⟩], [])
  | .openapi =>
    let (d, notices) := OpenApi.document style found
    ([⟨c.output, documentText (c.format.getD (Format.ofPath c.output)) d⟩], notices)
  | .tables =>
    ([⟨c.output.append ["endpoints.md"], (Report.endpointTable found.endpoints).toList⟩,
      ⟨c.output.append ["models.md"], (Report.modelTable found.models).toList⟩], [])
  | .diagram => ([⟨c.output, (Report.endpointMap found.endpoints).toList⟩], [])

/-- The files after a product has been written, in a directory that is made for it if need
be, and what went wrong. -/
def save (t : FileTree) (p : Product) : FileTree × Option FileFault :=
  match t.makeDirectory p.path.parent with
  | (made, some f) => (made, some f)
  | (made, none) =>
    match made.write p.path (Utf8.encode p.text) with
    | .error f => (made, some f)
    | .ok written => (written, none)

/-- Write products one after another, up to the first that cannot be written. -/
def saveAll (t : FileTree) (printed reported : String) : List Product → Outcome
  | [] => ⟨0, printed, reported, t, none⟩
  | p :: ps =>
    match save t p with
    | (t, some f) => .crashed t printed reported (.files f)
    | (t, none) => saveAll t (printed ++ savedLine p.path) reported ps

/-! ### Runs -/

/-- The synopsis of a command. -/
def Action.synopsis (a : Action) : Synopsis :=
  .command (((Action.names.find? fun n => n.2 = a).map Prod.fst).getD "")

/-- Read the sources and write what the command makes of them. -/
def produce (t : FileTree) (verbose : Bool) (settings : Settings) (style : DocumentStyle)
    (c : Command) : Outcome :=
  let sourced := Sources.read t c.sources
  let printed := startLine c.sources.length
  let reported := log verbose sourced.notices
  match sourced.outcome with
  | .error (.reported f) => .failed t printed reported f.message
  | .error (.unreported f) => .crashed t printed reported (.files f)
  | .ok ds =>
    match Survey.catalog settings.heuristics .standard ds with
    | .error f => .crashed t printed reported (.types f)
    | .ok (found, notices) =>
      let (ps, more) := products c style found
      saveAll t (printed ++ foundLine found) (reported ++ log verbose (notices ++ more)) ps

/-- Perform a command. -/
def perform (t : FileTree) (verbose : Bool) (settings : Settings) (c : Command) : Outcome :=
  match restyled settings.document c.info c.servers with
  | .error f => .misused t c.action.synopsis (.server f)
  | .ok style => produce t verbose settings style c

/-- Load the settings and go on with the command that the words are. -/
def runAction (reader : Yaml.Reader) (t : FileTree) (i : Invocation) (a : Action)
    (words : List String) : Outcome :=
  match Settings.load reader t i.config with
  | .error f =>
    match f.message? with
    | some message => .failed t "" "" message
    | none => .crashed t "" "" (.settings f)
  | .ok settings =>
    match Command.ofWords t a words with
    | .error f => .misused t a.synopsis f
    | .ok .help => .helped t a.synopsis
    | .ok (.command c) => perform t i.verbose settings c

/-- What is wrong with a name that is no command: if it looks like a switch, perhaps that. -/
def commandFault (t : FileTree) (rest : List String) : UsageFault :=
  let name := rest.headD ""
  match Invocation.ofWords t (if Switch.isSwitchWord name then rest else []) with
  | .error f => f
  | .ok _ => .commandUnknown name

/-- Run the program with the words of a command line. -/
def run (reader : Yaml.Reader) (t : FileTree) (words : List String) : Outcome :=
  match Invocation.ofWords t words with
  | .error f => .misused t .program f
  | .ok i =>
    if i.help || words.isEmpty then .helped t .program
    else
      match i.rest with
      | [] => .misused t .program .commandMissing
      | name :: rest =>
        match Action.names.lookup name with
        | some a => runAction reader t i a rest
        | none => .misused t .program (commandFault t (name :: rest))

end ServiceAtlas.CommandLine
