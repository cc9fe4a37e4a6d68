/-
Commands.

The words before the command choose the settings and how much is reported; those behind it
say what to read and what to write.  What was given is checked in the order in which it was
given, the sources behind all switches, and what is missing comes last.
-/
import ServiceAtlas.CommandLine.Usage

namespace ServiceAtlas.CommandLine

/-! ### Switches -/

/-- The switch that asks for help. -/
def helpSwitch : Switch := ⟨none, "--help", false⟩

/-- The switch that names the settings file. -/
def configSwitch : Switch := ⟨none, "--config", true⟩

/-- The switch that asks for all notices. -/
def verboseSwitch : Switch := ⟨some 'v', "--verbose", false⟩

/-- The switch that names what is written. -/
def outputSwitch : Switch := ⟨some 'o', "--output", true⟩

/-- The switch that replaces the title and the version of the document. -/
def infoSwitch : Switch := ⟨none, "--info", true⟩

/-- The switch that replaces the servers of the document. -/
def serversSwitch : Switch := ⟨none, "--servers", true⟩

/-- The switch that chooses the format of the document. -/
def formatSwitch : Switch := ⟨none, "--format", true⟩

/-- The switches in front of the command. -/
def programSwitches : List Switch :=
  [configSwitch, verboseSwitch, helpSwitch]

/-! ### Paths -/

/-- What a path among the words has to lead to; the noun is what it is called in a report. -/
structure PathRule where
  noun : String
  isThere : Bool
  mayBeFile : Bool

namespace PathRule

/-- Something to read from. -/
def input : PathRule := ⟨"Path", true, true⟩

/-- A file to write, which may be there. -/
def output : PathRule := ⟨"Path", false, true⟩

/-- A directory to write to, which may be there. -/
def outputDirectory : PathRule := ⟨"Directory", false, false⟩

/-- Check what a text taken as a path leads to; the first text says what it was given for. -/
def check (r : PathRule) (t : FileTree) (what path : String) : Except UsageFault Unit :=
  match t.placeOfText? path with
  | none => if r.isThere then .error (.pathMissing what path) else .ok ()
  | some place =>
    if !r.mayBeFile && t.isFileAt place then .error (.pathIsFile what path)
    else if !t.allows .read place then .error (.pathUnreadable what r.noun path)
    else .ok ()

end PathRule

/-! ### Before the command -/

/-- What the words in front of the command say, and the command with its words. -/
structure Invocation where
  verbose : Bool
  config : Option FilePath
  help : Bool
  rest : List String

/-- The invocation that the words of a command line are. -/
def Invocation.ofWords (t : FileTree) (words : List String) : Except UsageFault Invocation :=
  match Switch.ofWords programSwitches false words with
  | .error f => .error (.words f)
  | .ok found =>
    let help := found.given.any (·.switch = helpSwitch)
    let verbose := found.given.any (·.switch = verboseSwitch)
    match configSwitch.valueIn found.given with
    | some path => do
      if !help then PathRule.input.check t configSwitch.shown path
      return ⟨verbose, some (.ofText path), help, found.others⟩
    | none => .ok ⟨verbose, none, help, found.others⟩

/-! ### The commands -/

/-- The formats of a document. -/
inductive Format where
  | json
  | yaml
  deriving DecidableEq

/-- The formats by their names. -/
def Format.names : List (String × Format) :=
  [("json", json), ("yaml", yaml)]

/-- The format that the ending of a path asks for. -/
def Format.ofPath (path : FilePath) : Format :=
  if [".yaml", ".yml"].contains (Text.lowered path.ending) then yaml else json

/-- What the commands make of the sources. -/
inductive Action where
  | extract
  | openapi
  | tables
  | diagram
  deriving DecidableEq

/-- The commands by their names. -/
def Action.names : List (String × Action) :=
  [("extract", extract), ("openapi", openapi), ("tables", tables), ("diagram", diagram)]

/-- The switches of a command. -/
def Action.switches : Action → List Switch
  | openapi => [outputSwitch, infoSwitch, serversSwitch, formatSwitch, helpSwitch]
  | _ => [outputSwitch, helpSwitch]

/-- A command with all that it needs. -/
structure Command where
  action : Action
  sources : List FilePath
  output : FilePath
  info : Option String
  servers : Option String
  format : Option Format

/-- What the words behind a command can be. -/
inductive Request where
  | help
  | command (c : Command)

namespace Command

/-- Check the value of a switch. -/
def checkSwitch (t : FileTree) (action : Action) (given : List Given) (s : Switch) :
    Except UsageFault Unit :=
  let value := (s.valueIn given).getD ""
  if s = outputSwitch then
    (if action = .tables then PathRule.outputDirectory else .output).check t s.shown value
  else if s = formatSwitch && (Format.names.lookup value).isNone then
    .error (.choiceUnknown s.shown value (Format.names.map Prod.fst))
  else .ok ()

/-- Check that all sources are there. -/
def checkSources (t : FileTree) (sources : List String) : Except UsageFault Unit :=
  if sources.isEmpty then .error .sourcesMissing
  else sources.forM (PathRule.input.check t "'SOURCES...'")

/-- The request that the words behind a command are. -/
def ofWords (t : FileTree) (action : Action) (words : List String) : Except UsageFault Request := do
  match Switch.ofWords action.switches true words with
  | .error f => throw (.words f)
  | .ok found =>
    let given := found.given
    if given.any (·.switch = helpSwitch) then return .help
    (firstGiven given).forM (checkSwitch t action given)
    checkSources t found.others
    match outputSwitch.valueIn given with
    | none => throw (.switchMissing outputSwitch)
    | some output =>
      return .command
        { action := action
          sources := found.others.map FilePath.ofText
          output := .ofText output
          info := infoSwitch.valueIn given
          servers := serversSwitch.valueIn given
          format := (formatSwitch.valueIn given).bind fun name => Format.names.lookup name }

end Command

end ServiceAtlas.CommandLine
