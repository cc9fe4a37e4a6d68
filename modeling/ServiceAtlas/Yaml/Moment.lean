/-
Dates and times in YAML texts.

A date is a year, a month and a day; a time of day may follow, and an offset from universal
time behind that.  The form is decided on the digits alone, and whether there is such a day
and time afterwards.
-/
import ServiceAtlas.Text.Class
import ServiceAtlas.Text.Split
import ServiceAtlas.Decimal.Numeral

namespace ServiceAtlas.Yaml

/-- A time of day and its offset from universal time in minutes, if it has one. -/
structure DayTime where
  hour : Nat
  minute : Nat
  second : Nat
  microsecond : Nat
  offset : Option Int
  deriving DecidableEq

/-- A date, with or without a time of day. -/
structure Moment where
  year : Nat
  month : Nat
  day : Nat
  time : Option DayTime
  deriving DecidableEq

namespace Moment

open ServiceAtlas.Text

/-- The number that between `least` and `most` digits at the beginning denote, as many as
there are, and the rest. -/
def number? (least most : Nat) (cs : List Char) : Option (Nat × List Char) :=
  let ds := (cs.take most).takeWhile isAsciiDigit
  if ds.length < least then none
  else some (Numeral.ofDigits (ds.map fun d => d.toNat - 48), cs.drop ds.length)

/-- The rest of a text that begins with the character. -/
def after? (c : Char) : List Char → Option (List Char)
  | d :: cs => if d = c then some cs else none
  | [] => none

/-- A space or a tab. -/
def isGap (c : Char) : Bool :=
  c = ' ' || c = '\t'

/-- The offset that a text is, in minutes. -/
def offset? (cs : List Char) : Option (Option Int) :=
  match cs.dropWhile isGap with
  | [] => if cs.isEmpty then some none else none
  | ['Z'] => some (some 0)
  | sign :: cs =>
    if sign = '+' || sign = '-' then do
      let (hours, cs) ← number? 1 2 cs
      let minutes ←
        match cs with
        | [] => some 0
        | cs => do
          let (minutes, cs) ← number? 2 2 (← after? ':' cs)
          if cs.isEmpty then some minutes else none
      let total : Int := 60 * hours + minutes
      return some (if sign = '-' then -total else total)
    else none

/-- The digits of a fraction of a second as microseconds. -/
def microseconds (ds : List Char) : Nat :=
  let ds := ds.take 6
  Numeral.ofDigits (ds.map fun d => d.toNat - 48) * Nat.pow 10 (6 - ds.length)

/-- The time of day that a text is. -/
def dayTime? (cs : List Char) : Option DayTime := do
  let (hour, cs) ← number? 1 2 cs
  let (minute, cs) ← number? 2 2 (← after? ':' cs)
  let (second, cs) ← number? 2 2 (← after? ':' cs)
  let (fraction, cs) : List Char × List Char :=
    match cs with
    | '.' :: cs => (cs.takeWhile isAsciiDigit, cs.dropWhile isAsciiDigit)
    | cs => ([], cs)
  return ⟨hour, minute, second, microseconds fraction, ← offset? cs⟩

/-- The date or time that a text is, whether it exists or not. -/
def ofText? (cs : List Char) : Option Moment := do
  let (year, cs) ← number? 4 4 cs
  let (month, cs) ← number? 1 2 (← after? '-' cs)
  let (day, cs) ← number? 1 2 (← after? '-' cs)
  match cs with
  | [] => return ⟨year, month, day, none⟩
  | c :: rest =>
    if c = 'T' || c = 't' then return ⟨year, month, day, some (← dayTime? rest)⟩
    else if isGap c then return ⟨year, month, day, some (← dayTime? (rest.dropWhile isGap))⟩
    else none

/-- The length of a date with all its zeros. -/
def dateLength : Nat := 10

/-- A text that is a date or time without a tag that says so: a date without a time has to be
written in full. -/
def looksLike (cs : List Char) : Bool :=
  match ofText? cs with
  | none => false
  | some m => m.time.isSome || cs.length = dateLength

/-- The number of days of a month. -/
def daysOf (year month : Nat) : Nat :=
  if month = 2 then
    if year % 4 = 0 && (year % 100 ≠ 0 || year % 400 = 0) then 29 else 28
  else if [4, 6, 9, 11].contains month then 30
  else 31

/-- There is such a time of day, and the offset is less than a day. -/
def DayTime.isPossible (t : DayTime) : Bool :=
  t.hour < 24 && t.minute < 60 && t.second < 60
    && (match t.offset with
      | none => true
      | some o => o.natAbs < 24 * 60)

/-- There is such a day and time. -/
def isPossible (m : Moment) : Bool :=
  1 ≤ m.year && 1 ≤ m.month && m.month ≤ 12 && 1 ≤ m.day && m.day ≤ daysOf m.year m.month
    && m.time.all DayTime.isPossible

end Moment

end ServiceAtlas.Yaml
