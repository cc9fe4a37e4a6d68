/-
Scalar values of YAML documents.

What a scalar has to be is known from its kind; here its text is read as a value of that
kind.  Atoms are the keys of mappings as well, and numbers are one key if they are equal.
-/
import ServiceAtlas.Yaml.Kind
import ServiceAtlas.Text.Quoted
import ServiceAtlas.Decimal.Shortest
import ServiceAtlas.Encoding.Base64
import ServiceAtlas.Encoding.Utf8
import ServiceAtlas.Validation

namespace ServiceAtlas.Yaml

/-- A scalar value. -/
inductive Atom where
  | null
  | bool (b : Bool)
  | int (n : Int)
  | float (x : Binary64)
  | text (s : String)
  | garbled
  | bytes (bs : Utf8.Bytes)
  | moment (m : Moment)
  deriving DecidableEq

namespace Atom

/-- The number that an atom is equal to, if it is a whole one. -/
def whole? : Atom → Option Int
  | bool b => some (if b then 1 else 0)
  | int n => some n
  | float x => x.toInt?
  | _ => none

/-- Atoms that are one key: numbers of any kind by their value, and all else by being the
same. -/
def sameKey (a b : Atom) : Bool :=
  match a.whole?, b.whole? with
  | some m, some n => m = n
  | none, none => a = b && a ≠ float .nan
  | _, _ => false

/-- The truth value of a word, in any case. -/
def flag (text : String) : Except Fault Atom :=
  match Kind.flagWords.lookup (String.ofList (text.toList.map Char.toLower)) with
  | some b => .ok (bool b)
  | none => .error .flagWord

/-- The text without a line break at its end. -/
def withoutLastBreak (cs : List Char) : List Char :=
  if cs.getLast? = some '\n' then cs.dropLast else cs

/-- The date or time of a text. -/
def ofMoment (text : String) : Except Fault Atom :=
  match Moment.ofText? (withoutLastBreak text.toList) with
  | none => .error .dateForm
  | some m => if m.isPossible then .ok (moment m) else .error .dateRange

/-- The bytes of a text. -/
def ofBase64 (text : String) : Except Fault Atom :=
  if text.toList.all fun c => c.toNat < 128 then
    match Base64.decode? text.toList with
    | some bs => .ok (bytes bs)
    | none => .error .malformed
  else .error .malformed

/-- The atom of a kind that a text is. -/
def ofText (kind : Kind) (form : ScalarForm) (text : String) : Except Fault Atom :=
  match kind with
  | .null => .ok null
  | .bool => flag text
  | .int => int <$> Numeral.integer text.toList
  | .float => float <$> Numeral.real text.toList
  | .bytes => ofBase64 text
  | .moment => ofMoment text
  | .text => .ok (if form = .garbled then garbled else .text text)
  | _ => .error .malformed

/-! ### Keys in paths -/

/-- The least and the greatest number that a path gives as a number. -/
def isShort (n : Int) : Bool :=
  -Int.pow 2 63 ≤ n && n < Int.pow 2 63

/-- Numbers in parentheses behind a name. -/
def call (name : String) (args : List String) : String :=
  name ++ "(" ++ Text.joined ", " args ++ ")"

/-- An integer in decimal notation. -/
def decimal (n : Int) : String :=
  String.ofList (ServiceAtlas.Numeral.integerText n)

/-- An offset from universal time as it is shown. -/
def shownOffset (minutes : Int) : String :=
  let seconds := 60 * minutes
  let days := seconds.fdiv 86400
  let rest := seconds.fmod 86400
  let parts :=
    (if days = 0 then [] else ["days=" ++ decimal days])
      ++ (if rest = 0 then [] else ["seconds=" ++ decimal rest])
  if minutes = 0 then "datetime.timezone.utc"
  else call "datetime.timezone" [call "datetime.timedelta" parts]

/-- A date or time as it is shown. -/
def shownMoment (m : Moment) : String :=
  let numbers (ns : List Nat) : List String := ns.map fun n => decimal (Int.ofNat n)
  match m.time with
  | none => call "datetime.date" (numbers [m.year, m.month, m.day])
  | some t =>
    let fine :=
      if t.microsecond ≠ 0 then [t.second, t.microsecond]
      else if t.second ≠ 0 then [t.second]
      else []
    let zone := (t.offset.map fun o => "tzinfo=" ++ shownOffset o).toList
    call "datetime.datetime"
      (numbers ([m.year, m.month, m.day, t.hour, t.minute] ++ fine) ++ zone)

/-- A byte as it is shown between apostrophes. -/
def shownByte (b : UInt8) : List Char :=
  let c := Char.ofNat b.toNat
  if b.toNat < 128 then Text.quoteChar '\'' c else '\\' :: 'x' :: Text.hexDigits b.toNat 2

/-- The key that an atom is in a path. -/
def toKey : Atom → Key
  | null => .shown "None"
  | bool b => .number (if b then 1 else 0)
  | int n => if isShort n then .number n else .shown (decimal n)
  | float x => .shown x.text
  | text s => .text s
  | garbled => .shown ""
  | bytes bs => .shown (String.ofList ('b' :: '\'' :: bs.flatMap shownByte ++ ['\'']))
  | moment m => .shown (shownMoment m)

end Atom

end ServiceAtlas.Yaml
