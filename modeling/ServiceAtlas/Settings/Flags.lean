/-
Document members in the values of flags.

A value is a list of pairs, a key and a text with an equals sign between, separated by
commas.  Blanks around both are dropped, and quotes around the text.  Parts without an
equals sign say nothing.  Servers are separated by semicolons.
-/
import ServiceAtlas.Settings.Loading
import ServiceAtlas.RawForm.Reading

namespace ServiceAtlas

namespace Flags

open ServiceAtlas.Text

/-- The pair that a part is. -/
def pair? (part : List Char) : Option (String × String) :=
  match cut '=' part with
  | (_, none) => none
  | (key, some text) =>
    some (String.ofList (trim key), String.ofList (trimWhere (· = '"') (trim text)))

/-- The pairs of a value; of pairs with one key the last counts. -/
def pairs (value : List Char) : OrderedMap String String :=
  .ofList ((pieces ',' value).filterMap pair?)

/-- Why an entry is no server. -/
inductive ServerFault where
  | withoutUrl (entry : String)
  | members (entry : String) (faults : List Fault)

/-- The wording of a fault. -/
def ServerFault.message : ServerFault → String
  | withoutUrl entry => "server entry without url: " ++ quoted entry
  | members entry faults =>
    "invalid server entry " ++ quoted entry ++ ": " ++ Settings.faultCount faults.length
      ++ " for ServerConfig"

/-- The server that an entry is. -/
def server (entry : List Char) : Except ServerFault Server :=
  let found := pairs entry
  if found.contains "url" then
    match Server.check (Json.ofMap .str found) with
    | .valid s => .ok s
    | .invalid faults => .error (.members (String.ofList entry) faults)
  else .error (.withoutUrl (String.ofList entry))

/-- The servers of a value, up to the first entry that is none. -/
def serverList : List (List Char) → Except ServerFault (List Server)
  | [] => .ok []
  | entry :: entries => do
    let s ← server entry
    return s :: (← serverList entries)

/-- The servers of a value; blank entries are passed over. -/
def servers (value : List Char) : Except ServerFault (List Server) :=
  serverList (((pieces ';' value).map trim).filter fun e => !e.isEmpty)

end Flags

end ServiceAtlas
