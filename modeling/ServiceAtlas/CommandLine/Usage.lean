/-
Faults in the use of the command line, and how they are reported.
-/
import ServiceAtlas.CommandLine.Switch
import ServiceAtlas.Settings.Flags

namespace ServiceAtlas.CommandLine

/-- What is wrong with the use of the command line. -/
inductive UsageFault where
  | words (f : WordFault)
  | commandMissing
  | commandUnknown (name : String)
  | sourcesMissing
  | switchMissing (s : Switch)
  /-- A path has to lead somewhere; the first text names what it was given for. -/
  | pathMissing (what path : String)
  | pathIsFile (what path : String)
  /-- What stands at a path has to be readable; the second text says what it is to be. -/
  | pathUnreadable (what noun path : String)
  | choiceUnknown (what value : String) (choices : List String)
  | server (f : Flags.ServerFault)

/-- The names that may have been meant. -/
def suggestion : List String → String
  | [] => ""
  | [name] => " Did you mean " ++ name ++ "?"
  | names => " (Possible options: " ++ Text.joined ", " names ++ ")"

/-- The wording of a fault in the words for switches. -/
def WordFault.message : WordFault → String
  | unknown name close => "No such option: " ++ name ++ suggestion close
  | valueMissing name => "Option " ++ Text.quoted name ++ " requires an argument."
  | valueUnwanted name => "Option " ++ Text.quoted name ++ " does not take a value."

/-- The wording of a fault of a value. -/
def invalidValue (what reason : String) : String :=
  "Invalid value for " ++ what ++ ": " ++ reason

/-- The wording of a fault. -/
def UsageFault.message : UsageFault → String
  | words f => f.message
  | commandMissing => "Missing command."
  | commandUnknown name => "No such command " ++ Text.quoted name ++ "."
  | sourcesMissing => "Missing argument 'SOURCES...'."
  | switchMissing s => "Missing option " ++ s.shown ++ "."
  | pathMissing what path =>
    invalidValue what ("Path " ++ Text.quoted path ++ " does not exist.")
  | pathIsFile what path => invalidValue what ("Directory " ++ Text.quoted path ++ " is a file.")
  | pathUnreadable what noun path =>
    invalidValue what (noun ++ " " ++ Text.quoted path ++ " is not readable.")
  | choiceUnknown what value choices =>
    invalidValue what
      (Text.quoted value ++ " is not one of " ++ Text.joined ", " (choices.map Text.quoted) ++ ".")
  | server f => "Invalid value: " ++ f.message

/-- The name of the program. -/
def programName : String := "main"

/-- How the program or one of its commands is used. -/
structure Synopsis where
  name : String
  operands : String

/-- The program without a command. -/
def Synopsis.program : Synopsis :=
  ⟨programName, "COMMAND [ARGS]..."⟩

/-- A command of the program. -/
def Synopsis.command (name : String) : Synopsis :=
  ⟨programName ++ " " ++ name, "SOURCES..."⟩

/-- The line that shows the use. -/
def Synopsis.line (s : Synopsis) : String :=
  "Usage: " ++ s.name ++ " [OPTIONS] " ++ s.operands ++ "\n"

/-- The report of a fault. -/
def UsageFault.report (f : UsageFault) (s : Synopsis) : String :=
  s.line ++ "Try '" ++ s.name ++ " --help' for help.\n\nError: " ++ f.message ++ "\n"

end ServiceAtlas.CommandLine
