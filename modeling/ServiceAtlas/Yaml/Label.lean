/-
Anchors, tags and directives of YAML texts.

Each reader starts at the indicator and ends behind what it has read, and checks that what
follows can follow.
-/
import ServiceAtlas.Yaml.Scalar
import ServiceAtlas.Encoding.Utf8

namespace ServiceAtlas.Yaml.Label

/-- A name that is not empty. -/
def name (c : Cursor) : Except Fault (String × Cursor) :=
  match c.run isNameChar with
  | ([], _) => .error .malformed
  | (found, c) => .ok (String.ofList found, c)

/-- The name behind the indicator of an anchor or an alias. -/
def anchorName (c : Cursor) : Except Fault (String × Cursor) := do
  let (found, c) ← name c.step
  let followers : List Char := ['?', ':', ',', ']', '\x7d', '%', '@', '\x60']
  let follows : Bool :=
    match c.peek 0 with
    | none => true
    | some ch => isBlank ch || followers.contains ch
  if follows then return (found, c) else throw .malformed

/-! ### Tags -/

/-- A handle: a mark alone, or marks around a name that may be empty. -/
def handle (c : Cursor) : Except Fault (String × Cursor) :=
  if !c.at_ '!' then .error .malformed
  else
    let (found, after) := c.step.run isNameChar
    if after.at_ '!' then .ok (String.ofList ('!' :: found ++ ['!']), after.step)
    else if c.step.at_ ' ' then .ok ("!", c.step)
    else .error .malformed

/-- Characters that stand for themselves in a tag. -/
def isUriChar (c : Char) : Bool :=
  Text.isAsciiLetter c || Text.isAsciiDigit c
    || "-;/?:@&=+$,_.!~*'()[]".toList.contains c

/-- The bytes of escapes at the beginning, each a percent sign and two digits. -/
def escapedBytes : List Char → Except Fault (Utf8.Bytes × List Char)
  | '%' :: a :: b :: rest =>
    match Scalar.hexNumber? [a, b] with
    | none => .error .malformed
    | some n => do
      let (bytes, rest) ← escapedBytes rest
      return (.ofNat n :: bytes, rest)
  | '%' :: _ => .error .malformed
  | rest => .ok ([], rest)

/-- The text of a tag with its escapes decoded, and the rest. -/
def uriText : Nat → List Char → Except Fault (List Char × List Char)
  | 0, cs => .ok ([], cs)
  | budget + 1, cs =>
    match cs with
    | '%' :: _ => do
      let (bytes, rest) ← escapedBytes cs
      match Utf8.decode bytes with
      | .error _ => throw .malformed
      | .ok text =>
        let (more, rest) ← uriText budget rest
        return (text ++ more, rest)
    | c :: rest =>
      if isUriChar c then do
        let (more, rest) ← uriText budget rest
        return (c :: more, rest)
      else .ok ([], c :: rest)
    | [] => .ok ([], [])

/-- The text of a tag, which is not empty. -/
def uri (c : Cursor) : Except Fault (String × Cursor) := do
  let (text, rest) ← uriText (Scalar.budget c) c.rest
  let length := c.rest.length - rest.length
  if length = 0 then throw .malformed
  return (String.ofList text, c.advance length)

/-- A tag: in angle brackets, a mark alone, or a handle and a suffix. -/
def tag (c : Cursor) : Except Fault (Token × Cursor) := do
  let (found, c) ←
    if c.peek 1 = some '<' then do
      let (suffix, c) ← uri (c.advance 2)
      if !c.at_ '>' then throw .malformed
      pure (Token.tag none suffix, c.step)
    else if c.blankAt 1 then
      pure (Token.tag none "!", c.step)
    else do
      let word := c.step.rest.takeWhile fun ch => ch ≠ ' ' && !isBreak ch
      let (found, c) ← if word.contains '!' then handle c else pure ("!", c.step)
      let (suffix, c) ← uri c
      pure (Token.tag (some found) suffix, c)
  if c.spaceAt 0 then return (found, c) else throw .malformed

/-! ### Directives -/

/-- The number at a place. -/
def number (c : Cursor) : Except Fault (Nat × Cursor) :=
  match c.run Text.isAsciiDigit with
  | ([], _) => .error .malformed
  | (ds, c) => .ok (Numeral.ofDigits (ds.map fun d => d.toNat - 48), c)

/-- The version that a directive names. -/
def versionDirective (c : Cursor) : Except Fault (Token × Cursor) := do
  let (major, c) ← number (Scalar.skipSpaces c)
  if !c.at_ '.' then throw .malformed
  let (_, c) ← number c.step
  if c.spaceAt 0 then return (.version major, c) else throw .malformed

/-- The handle that a directive declares, and what it stands for. -/
def handleDirective (c : Cursor) : Except Fault (Token × Cursor) := do
  let (found, c) ← handle (Scalar.skipSpaces c)
  if !c.at_ ' ' then throw .malformed
  let (expansion, c) ← uri (Scalar.skipSpaces c)
  if c.spaceAt 0 then return (.tagHandle found expansion, c) else throw .malformed

/-- A directive with the line that it stands on. -/
def directive (c : Cursor) : Except Fault (Token × Cursor) := do
  let (found, c) ← name c.step
  if !c.spaceAt 0 then throw .malformed
  let (token, c) ←
    if found = "YAML" then versionDirective c
    else if found = "TAG" then handleDirective c
    else pure (.otherDirective, c.skip (!isBreak ·))
  return (token, ← Scalar.restOfLine c)

end ServiceAtlas.Yaml.Label
