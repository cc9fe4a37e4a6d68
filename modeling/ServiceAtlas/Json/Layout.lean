/-
JSON as text, one item to a line.

Items and members are indented by two blanks a level, empty arrays and objects stay on
their line, and the text is ASCII: everything else is escaped by its UTF-16 units.  A
number that JSON cannot express is written as null.
-/
import ServiceAtlas.Json
import ServiceAtlas.Decimal.Shortest
import ServiceAtlas.Decimal.Numeral
import ServiceAtlas.Text.Quoted
import ServiceAtlas.Text.Split

namespace ServiceAtlas.Json

open ServiceAtlas.Text

/-- One UTF-16 unit as an escape. -/
def unitEscape (n : Nat) : List Char :=
  '\\' :: 'u' :: hexDigits n 4

/-- A character inside a JSON string. -/
def escapeChar (c : Char) : List Char :=
  if c = '"' then ['\\', '"']
  else if c = '\\' then ['\\', '\\']
  else if c = '\n' then ['\\', 'n']
  else if c = '\r' then ['\\', 'r']
  else if c = '\t' then ['\\', 't']
  else if c.toNat = 8 then ['\\', 'b']
  else if c.toNat = 12 then ['\\', 'f']
  else if 32 ≤ c.toNat ∧ c.toNat < 127 then [c]
  else if c.toNat < 0x10000 then unitEscape c.toNat
  else
    let n := c.toNat - 0x10000
    unitEscape (0xD800 + n / 0x400) ++ unitEscape (0xDC00 + n % 0x400)

/-- A string literal. -/
def literal (s : String) : String :=
  String.ofList ('"' :: s.toList.flatMap escapeChar ++ ['"'])

/-- A line break and the blanks that begin a line of the level. -/
def newLine (level : Nat) : String :=
  String.ofList ('\n' :: List.replicate (2 * level) ' ')

mutual

/-- The text of a value that stands at a level of indentation. -/
def layoutAt (level : Nat) : Json → String
  | null => "null"
  | bool b => if b then "true" else "false"
  | int n => String.ofList (Numeral.integerText n)
  | float x => if x.isFinite then x.text else "null"
  | str s => literal s
  | arr [] => "[]"
  | arr (v :: vs) =>
    "[" ++ newLine (level + 1) ++ layoutAt (level + 1) v ++ layoutItems (level + 1) vs
      ++ newLine level ++ "]"
  | obj [] => "\x7b\x7d"
  | obj ((n, v) :: ms) =>
    "\x7b" ++ newLine (level + 1) ++ literal n ++ ": " ++ layoutAt (level + 1) v
      ++ layoutMembers (level + 1) ms ++ newLine level ++ "\x7d"

/-- The items after the first. -/
def layoutItems (level : Nat) : List Json → String
  | [] => ""
  | v :: vs => "," ++ newLine level ++ layoutAt level v ++ layoutItems level vs

/-- The members after the first. -/
def layoutMembers (level : Nat) : List (String × Json) → String
  | [] => ""
  | (n, v) :: ms =>
    "," ++ newLine level ++ literal n ++ ": " ++ layoutAt level v ++ layoutMembers level ms

end

/-- The text of a value. -/
def layout (v : Json) : String :=
  layoutAt 0 v

end ServiceAtlas.Json
