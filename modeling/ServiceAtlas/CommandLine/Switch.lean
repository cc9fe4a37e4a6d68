/-
Words of a command line.

A switch has a long name behind two hyphens, and it may have a letter behind one.  Its value
is the rest of the word or the next word, whatever that looks like.  Letters can stand
together behind one hyphen, the last of them with a value.  Two hyphens alone end the
switches.
-/
import ServiceAtlas.Text.Split
import ServiceAtlas.Text.Similarity

namespace ServiceAtlas.CommandLine

/-- A switch. -/
structure Switch where
  letter : Option Char
  name : String
  takesValue : Bool
  deriving DecidableEq

/-- A switch that has been given, with its value if it takes one. -/
structure Given where
  switch : Switch
  value : String
  deriving DecidableEq

/-- What is wrong with the words for switches. -/
inductive WordFault where
  | unknown (name : String) (close : List String)
  | valueMissing (name : String)
  | valueUnwanted (name : String)
  deriving DecidableEq

/-- What one word gives: switches, and the name and the switch that is still without its
value. -/
structure WordContent where
  given : List Given
  pending : Option (String × Switch)

/-- The switches and the other words, each in order. -/
structure Words where
  given : List Given
  others : List String

namespace Switch

/-- The names of switches that are close to a name, in alphabetical order. -/
def closeTo (switches : List Switch) (name : String) : List String :=
  let names := switches.map (·.name)
  (names.filter fun n => Text.areClose n.toList name.toList).mergeSort fun a b => decide (a ≤ b)

/-- What letters behind a hyphen give. -/
def ofLetters (switches : List Switch) : List Char → Except WordFault WordContent
  | [] => .ok ⟨[], none⟩
  | c :: cs =>
    let shown := String.ofList ['-', c]
    match switches.find? fun s => s.letter = some c with
    | none => .error (.unknown shown [])
    | some s =>
      if s.takesValue then
        if cs.isEmpty then .ok ⟨[], some (shown, s)⟩
        else .ok ⟨[⟨s, String.ofList cs⟩], none⟩
      else do
        let more ← ofLetters switches cs
        return { more with given := ⟨s, ""⟩ :: more.given }

/-- What a word gives that begins with a hyphen. -/
def ofWord (switches : List Switch) (word : String) : Except WordFault WordContent :=
  let (front, value?) := Text.cut '=' word.toList
  let name := String.ofList front
  match switches.find? fun s => s.name = name with
  | some s =>
    match s.takesValue, value? with
    | true, some value => .ok ⟨[⟨s, String.ofList value⟩], none⟩
    | true, none => .ok ⟨[], some (name, s)⟩
    | false, some _ => .error (.valueUnwanted name)
    | false, none => .ok ⟨[⟨s, ""⟩], none⟩
  | none =>
    match word.toList with
    | '-' :: '-' :: _ => .error (.unknown name (closeTo switches name))
    | _ :: letters => ofLetters switches letters
    | [] => .ok ⟨[], none⟩

/-- The word is for switches. -/
def isSwitchWord (word : String) : Bool :=
  word.toList.head? = some '-' && 1 < word.length

/-- The switches and the other words of a command line.  Without `mixed` the first other
word ends the switches. -/
def ofWords (switches : List Switch) (mixed : Bool) : List String → Except WordFault Words
  | [] => .ok ⟨[], []⟩
  | word :: words =>
    if word = "--" then .ok ⟨[], words⟩
    else if !isSwitchWord word then
      if mixed then do
        let rest ← ofWords switches mixed words
        return { rest with others := word :: rest.others }
      else .ok ⟨[], word :: words⟩
    else
      match ofWord switches word with
      | .error f => .error f
      | .ok ⟨given, none⟩ => do
        let rest ← ofWords switches mixed words
        return { rest with given := given ++ rest.given }
      | .ok ⟨given, some (name, s)⟩ =>
        match words with
        | [] => .error (.valueMissing name)
        | value :: words => do
          let rest ← ofWords switches mixed words
          return { rest with given := given ++ ⟨s, value⟩ :: rest.given }

/-- The value of a switch that was given last. -/
def valueIn (s : Switch) (given : List Given) : Option String :=
  (given.reverse.find? fun g => g.switch = s).map (·.value)

/-- The switch as it is named in messages. -/
def shown (s : Switch) : String :=
  match s.letter with
  | some c => "'-" ++ String.singleton c ++ "' / '" ++ s.name ++ "'"
  | none => "'" ++ s.name ++ "'"

end Switch

/-- The switches among those given, in the order in which each was given first. -/
def firstGiven : List Given → List Switch
  | [] => []
  | g :: gs => g.switch :: (firstGiven gs).filter (· ≠ g.switch)

end ServiceAtlas.CommandLine
