/-
Settings from files.

A settings file is a YAML text whose value is a mapping of settings, or no document at all.
Most of what can be wrong with it is reported in a message that names the file.  Some faults
of values go unreported: `Settings.LoadFault.message?` is none for these.

How the text is read as a value is left open here, and `load` takes a reader for it.
-/
import ServiceAtlas.FileTree
import ServiceAtlas.Settings
import ServiceAtlas.Text.Quoted
import ServiceAtlas.Yaml.Value

namespace ServiceAtlas

namespace Settings

/-- Why a file gives no settings. -/
inductive LoadFault where
  | unreadable (path : String) (f : FileFault)
  | undecodable (d : Utf8.Defect)
  | noValue (path : String) (f : Yaml.Fault)
  | noMapping (path : String)
  | keyNotText
  | members (path : String) (faults : List Fault)

/-- A number of faults in words. -/
def faultCount (n : Nat) : String :=
  String.ofList (Numeral.integerText n)
    ++ (if n = 1 then " validation error" else " validation errors")

/-- The wording of a fault that is reported. -/
def LoadFault.message? : LoadFault → Option String
  | unreadable path f =>
    f.number?.map fun n =>
      "cannot read settings file " ++ path ++ ": [Errno " ++ String.ofList (Numeral.integerText n)
        ++ "] " ++ f.message ++ ": " ++ Text.quoted path
  | undecodable _ => none
  | noValue path f => if f = .malformed then some ("invalid YAML in " ++ path) else none
  | noMapping path => some (path ++ ": expected a mapping at the top level")
  | keyNotText => none
  | members path faults => some (path ++ ": " ++ faultCount faults.length ++ " for Settings")

/-- The text with every line break a line feed. -/
def withLineFeeds : List Char → List Char
  | '\r' :: '\n' :: cs => '\n' :: withLineFeeds cs
  | '\r' :: cs => '\n' :: withLineFeeds cs
  | c :: cs => c :: withLineFeeds cs
  | [] => []

/-- The key of an entry is text. -/
def isTextKey : Yaml.Atom → Bool
  | .text _ => true
  | .garbled => true
  | _ => false

/-- The settings that a value of the format is. -/
def ofValue (path : String) : Yaml.Value → Except LoadFault Settings
  | .atom .null => .ok standard
  | .map entries =>
    if entries.all fun e => isTextKey e.1 then
      match check (Yaml.Value.map entries) with
      | .valid s => .ok s
      | .invalid faults => .error (.members path faults)
    else .error .keyNotText
  | _ => .error (.noMapping path)

/-- The settings in a text, which is known by the given name. -/
def ofText (reader : Yaml.Reader) (path : String) (text : List Char) :
    Except LoadFault Settings :=
  match reader (withLineFeeds text) with
  | .error f => .error (.noValue path f)
  | .ok v => ofValue path v

/-- The settings in bytes. -/
def ofBytes (reader : Yaml.Reader) (path : String) (bytes : Utf8.Bytes) :
    Except LoadFault Settings :=
  match Utf8.decode bytes with
  | .error d => .error (.undecodable d)
  | .ok text => ofText reader path text

/-- The settings in the file that a path leads to; without a path, the standard ones. -/
def load (reader : Yaml.Reader) (t : FileTree) : Option FilePath → Except LoadFault Settings
  | none => .ok standard
  | some path =>
    match t.read path with
    | .error f => .error (.unreadable path.text f)
    | .ok bytes => ofBytes reader path.text bytes

end Settings

end ServiceAtlas
