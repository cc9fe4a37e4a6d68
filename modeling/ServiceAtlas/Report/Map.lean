/-
The map of endpoints, a flow chart with one box per endpoint and one frame per group.

Boxes are known by identifiers made from verb and path.  Where an identifier is taken, the
first free one among those with a number behind it is used, so no two boxes of a map are
drawn as one.
-/
import ServiceAtlas.Report.Table

namespace ServiceAtlas.Report

open ServiceAtlas.Text

/-- Characters of identifiers: ASCII letters and digits, and the underscore. -/
def isIdChar (c : Char) : Bool :=
  isAsciiLetter c || isAsciiDigit c || c == '_'

/-- A text as an identifier, given whether the character written last is an underscore. -/
def sanitizeFrom (behind : Bool) : List Char → List Char
  | [] => []
  | c :: cs =>
    if isIdChar c && c ≠ '_' then c :: sanitizeFrom false cs
    else if behind then sanitizeFrom true cs
    else '_' :: sanitizeFrom true cs

/-- A text as an identifier: every run of other characters is one underscore. -/
def sanitize (text : String) : String :=
  String.ofList (sanitizeFrom false text.toList)

/-- An identifier with a number behind it. -/
def numbered (id : String) (n : Nat) : String :=
  id ++ "_" ++ String.ofList (Nat.toDigits 10 n)

/-- The first numbered identifier from `n` on that is not taken, `budget` of them tried. -/
def firstFree (id : String) (taken : List String) : Nat → Nat → String
  | 0, n => numbered id n
  | budget + 1, n =>
    if taken.contains (numbered id n) then firstFree id taken budget (n + 1) else numbered id n

/-- The identifier itself if it is free, else the first free numbered one.  Among one more
candidates than there are taken identifiers one is free. -/
def freeId (id : String) (taken : List String) : String :=
  if taken.contains id then firstFree id taken taken.length 2 else id

/-- A parameter in the label of a box. -/
def labelParameter (p : RequestParameter) : String :=
  p.name ++ ":" ++ p.place.word ++ (if p.required then " (req)" else "")

/-- The label of a box before quotes are escaped. -/
def rawLabel (e : Endpoint) : String :=
  e.verb.name ++ " " ++ e.path
    ++ (if e.parameters.isEmpty then ""
      else "<br/>Params: " ++ joined ", " (e.parameters.map labelParameter))

/-- The label of a box. -/
def label (e : Endpoint) : String :=
  String.ofList (replaceChar '"' "#quot;".toList (rawLabel e).toList)

/-- The identifier of a box as long as it is free. -/
def boxId (e : Endpoint) : String :=
  sanitize (e.verb.name ++ "_" ++ e.path)

/-- A box. -/
structure Box where
  id : String
  label : String

/-- A box as a line. -/
def Box.line (b : Box) : String :=
  "    " ++ b.id ++ "[\"" ++ b.label ++ "\"]"

/-- The boxes of endpoints, and the identifiers taken after them. -/
def boxes (taken : List String) : List Endpoint → List Box × List String
  | [] => ([], taken)
  | e :: es =>
    let id := freeId (boxId e) taken
    let (rest, taken) := boxes (id :: taken) es
    (⟨id, label e⟩ :: rest, taken)

/-- A frame with the boxes of a group. -/
structure Frame where
  group : String
  boxes : List Box

/-- A frame as lines. -/
def Frame.lines (f : Frame) : List String :=
  ["  subgraph " ++ sanitize f.group, "    direction TB"] ++ f.boxes.map Box.line ++ ["  end", ""]

/-- The groups that occur, in ascending order. -/
def groupNames (es : List Endpoint) : List String :=
  ((groups es).mergeSort fun a b => decide (a ≤ b)).eraseReps

/-- The endpoints of a group, in order. -/
def members (es : List Endpoint) (group : String) : List Endpoint :=
  ((es.zip (groups es)).filter fun e => e.2 = group).map Prod.fst

/-- The frames of groups, identifiers being taken from one frame to the next. -/
def frames (es : List Endpoint) (taken : List String) : List String → List Frame
  | [] => []
  | group :: rest =>
    let (bs, taken) := boxes taken (members es group)
    ⟨group, bs⟩ :: frames es taken rest

/-- The map of endpoints. -/
def endpointMap (es : List Endpoint) : String :=
  linesText ("flowchart TB" :: (frames es [] (groupNames es)).flatMap Frame.lines)

end ServiceAtlas.Report
