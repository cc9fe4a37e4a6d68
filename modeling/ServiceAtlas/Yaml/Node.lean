/-
Nodes of YAML documents.

A document is read from its tokens as one node.  Aliases are replaced by what their anchor
names, so a node is a tree; an alias inside the collection that it names would make it
endless and is left as such.
-/
import ServiceAtlas.Yaml.Tokens

namespace ServiceAtlas.Yaml

/-- A node.  A tag is given in full; without one, or with the mark alone, the text of a plain
scalar decides what it is. -/
inductive Node where
  | scalar (tag : Option String) (form : ScalarForm) (text : String)
  | sequence (tag : Option String) (items : List Node)
  | mapping (tag : Option String) (entries : List (Node × Node))
  | endless

namespace Node

instance : Inhabited Node := ⟨endless⟩

/-- What is left out where a node may be left out. -/
def empty : Node :=
  scalar none .plain ""

/-- What is known while a document is read: the tokens left, the handles of tags, and the
nodes with anchors, which are missing as long as the node is not complete. -/
structure Reading where
  tokens : List Token
  handles : List (String × String)
  anchors : List (String × Option Node)

/-- A step of reading, which may fail. -/
abbrev Read (α : Type) := StateT Reading (Except Fault) α

/-- Give up. -/
def fail {α : Type} : Read α :=
  throw .malformed

/-- The next token, which stays.  A fault of the text is found here. -/
def peek : Read (Option Token) := do
  match (← get).tokens with
  | [] => return none
  | .fault f :: _ => throw f
  | t :: _ => return some t

/-- Pass over the next token. -/
def drop : Read Unit :=
  modify fun r => { r with tokens := r.tokens.drop 1 }

/-- Pass over the next token if it is the given one, and tell whether it was. -/
def accept (t : Token) : Read Bool := do
  if (← peek) = some t then
    drop
    return true
  else return false

/-- Pass over the next token, which has to be the given one. -/
def expect (t : Token) : Read Unit := do
  if !(← accept t) then fail

/-- The next token is one of those given. -/
def nextIn (ts : List Token) : Read Bool := do
  match ← peek with
  | none => return false
  | some t => return ts.contains t

/-! ### Anchors and tags -/

/-- An anchor at the beginning. -/
def anchor? : Read (Option String) := do
  match ← peek with
  | some (.anchor name) =>
    drop
    return some name
  | _ => return none

/-- A tag at the beginning, with its handle replaced by what it stands for. -/
def tag? : Read (Option String) := do
  match ← peek with
  | some (.tag handle suffix) =>
    drop
    match handle with
    | none => return some suffix
    | some handle =>
      match (← get).handles.lookup handle with
      | none => fail
      | some expansion => return some (expansion ++ suffix)
  | _ => return none

/-- The anchor and the tag at the beginning, in either order. -/
def labels : Read (Option String × Option String) := do
  match ← anchor? with
  | some name => return (some name, ← tag?)
  | none =>
    let tag ← tag?
    return (← anchor?, tag)

/-- Announce an anchor, which must not have been used before. -/
def announce : Option String → Read Unit
  | none => return
  | some name => do
    if ((← get).anchors.lookup name).isSome then fail
    modify fun r => { r with anchors := (name, none) :: r.anchors }

/-- Give an announced anchor its node. -/
def complete (name? : Option String) (n : Node) : Read Node := do
  match name? with
  | none => return n
  | some name =>
    modify fun r => { r with anchors := (name, some n) :: r.anchors }
    return n

/-- The node that an alias names. -/
def named (name : String) : Read Node := do
  match (← get).anchors.lookup name with
  | none => fail
  | some none => return endless
  | some (some n) => return n

/-- The tag that decides what a node is; the mark alone decides nothing. -/
def decisive (tag : Option String) : Option String :=
  if tag = some "!" then none else tag

/-- The scalar with the given tag; the mark alone makes it count as plain. -/
def ofScalar (tag : Option String) (form : ScalarForm) (text : String) : Node :=
  scalar (decisive tag) (if tag = some "!" && form = .quoted then .plain else form) text

/-! ### The grammar -/

/-- The tokens at which an entry of a block sequence is empty. -/
def entryEnds : List Token :=
  [.blockEntry, .blockEnd]

/-- The tokens at which an entry of a sequence without indentation is empty. -/
def flushEntryEnds : List Token :=
  [.blockEntry, .key, .value, .blockEnd]

/-- The tokens at which a key or a value of a block mapping is empty. -/
def blockPartEnds : List Token :=
  [.key, .value, .blockEnd]

/-- The tokens at which a key in brackets is empty, besides the closing bracket. -/
def flowKeyEnds : List Token :=
  [.value, .flowEntry]

/-- Where a node stands, which tells the collections that it can be. -/
inductive Place where
  | block
  | blockPart
  | flow
  deriving DecidableEq

mutual

/-- The node at the beginning. -/
def node : Nat → Place → Read Node
  | 0, _ => fail
  | budget + 1, place => do
    match ← peek with
    | some (.alias name) =>
      drop
      named name
    | _ =>
      let (anchor, tag) ← labels
      announce anchor
      complete anchor (← content budget place (anchor.isSome || tag.isSome) tag)

/-- The node behind its anchor and tag, which may be empty if it has one of them. -/
def content : Nat → Place → Bool → Option String → Read Node
  | 0, _, _, _ => fail
  | budget + 1, place, labelled, tag => do
    match ← peek with
    | some (.scalar form text) =>
      drop
      return ofScalar tag form text
    | some .flowSequenceStart =>
      drop
      return sequence (decisive tag) (← flowItems budget true)
    | some .flowMappingStart =>
      drop
      return mapping (decisive tag) (← flowEntries budget true)
    | some .blockSequenceStart =>
      if place = .flow then fail
      drop
      return sequence (decisive tag) (← blockItems budget)
    | some .blockMappingStart =>
      if place = .flow then fail
      drop
      return mapping (decisive tag) (← blockEntries budget)
    | next =>
      if place = .blockPart && next = some .blockEntry then
        return sequence (decisive tag) (← flushItems budget)
      else if labelled then
        return ofScalar tag .plain ""
      else fail

/-- The node at the beginning, or an empty one in front of one of the tokens. -/
def nodeUnless : Nat → List Token → Place → Read Node
  | 0, _, _ => fail
  | budget + 1, ends, place => do
    if ← nextIn ends then return empty else node budget place

/-- The items of a block sequence, through its end. -/
def blockItems : Nat → Read (List Node)
  | 0 => fail
  | budget + 1 => do
    if ← accept .blockEntry then
      let item ← nodeUnless budget entryEnds .block
      return item :: (← blockItems budget)
    else
      expect .blockEnd
      return []

/-- The items of a sequence that is not indented further than its key. -/
def flushItems : Nat → Read (List Node)
  | 0 => fail
  | budget + 1 => do
    if ← accept .blockEntry then
      let item ← nodeUnless budget flushEntryEnds .block
      return item :: (← flushItems budget)
    else return []

/-- The entries of a block mapping, through its end. -/
def blockEntries : Nat → Read (List (Node × Node))
  | 0 => fail
  | budget + 1 => do
    if ← accept .key then
      let k ← nodeUnless budget blockPartEnds .blockPart
      let v ← blockValue budget
      return (k, v) :: (← blockEntries budget)
    else
      expect .blockEnd
      return []

/-- The value of an entry of a block mapping. -/
def blockValue : Nat → Read Node
  | 0 => fail
  | budget + 1 => do
    if ← accept .value then nodeUnless budget blockPartEnds .blockPart else return empty

/-- The items of a sequence in brackets, through the closing one.  A key makes an item a
mapping with one entry. -/
def flowItems : Nat → Bool → Read (List Node)
  | 0, _ => fail
  | budget + 1, isFirst => do
    if ← accept .flowSequenceEnd then return []
    if !isFirst then expect .flowEntry
    if ← accept .key then
      let k ← nodeUnless budget (.flowSequenceEnd :: flowKeyEnds) .flow
      let v ← flowValue budget .flowSequenceEnd
      return mapping none [(k, v)] :: (← flowItems budget false)
    else if ← accept .flowSequenceEnd then return []
    else
      let item ← node budget .flow
      return item :: (← flowItems budget false)

/-- The entries of a mapping in brackets, through the closing one. -/
def flowEntries : Nat → Bool → Read (List (Node × Node))
  | 0, _ => fail
  | budget + 1, isFirst => do
    if ← accept .flowMappingEnd then return []
    if !isFirst then expect .flowEntry
    if ← accept .key then
      let k ← nodeUnless budget (.flowMappingEnd :: flowKeyEnds) .flow
      let v ← flowValue budget .flowMappingEnd
      return (k, v) :: (← flowEntries budget false)
    else if ← accept .flowMappingEnd then return []
    else
      let k ← node budget .flow
      return (k, empty) :: (← flowEntries budget false)

/-- The value behind a key in brackets. -/
def flowValue : Nat → Token → Read Node
  | 0, _ => fail
  | budget + 1, closing => do
    if ← accept .value then nodeUnless budget [.flowEntry, closing] .flow else return empty

end

/-! ### Documents -/

/-- The handles that need no directive. -/
def standardHandles : List (String × String) :=
  [("!", "!"), ("!!", "tag:yaml.org,2002:")]

/-- The directives in front of a document; `version` tells whether one has named the version,
of which there is only one to choose from. -/
def directives : Nat → Bool → List (String × String) → Read (List (String × String))
  | 0, _, handles => return handles
  | budget + 1, version, handles => do
    match ← peek with
    | some (.version major) =>
      if version || major ≠ 1 then fail
      drop
      directives budget true handles
    | some (.tagHandle handle expansion) =>
      if (handles.lookup handle).isSome then fail
      drop
      directives budget version ((handle, expansion) :: handles)
    | some .otherDirective =>
      drop
      directives budget version handles
    | _ => return handles

/-- The tokens at which a document is empty that has begun with a mark. -/
def startsDocument : Option Token → Bool
  | none => true
  | some (.version _) => true
  | some (.tagHandle _ _) => true
  | some .otherDirective => true
  | some .documentStart => true
  | some .documentEnd => true
  | some _ => false

/-- Pass over marks that end documents. -/
def dropEnds : Nat → Read Unit
  | 0 => return
  | budget + 1 => do
    if ← accept .documentEnd then dropEnds budget

/-- The only document of a text, if there is one. -/
def document (budget : Nat) : Read (Option Node) := do
  match ← peek with
  | none => return none
  | some t =>
    let root ←
      if t ≠ .documentEnd && startsDocument (some t) then do
        let handles ← directives budget false []
        expect .documentStart
        modify fun r => { r with handles := handles ++ standardHandles }
        if startsDocument (← peek) then pure empty else node budget .block
      else node budget .block
    dropEnds budget
    match ← peek with
    | none => return some root
    | some _ => fail

/-- The root of a text; a text without a document has none. -/
def ofText (text : List Char) : Except Fault (Option Node) :=
  let ts := tokens text
  let budget := 8 * ts.length + 8
  ((document budget).run ⟨ts, standardHandles, []⟩).map Prod.fst

end Node

end ServiceAtlas.Yaml
