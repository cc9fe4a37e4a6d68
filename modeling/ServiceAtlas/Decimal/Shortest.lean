/-
The shortest decimal text that reads back as the same number.

A finite number is an integer over a power of ten, so its decimal expansion and the
interval of reals that round to it are integers on one scale.  For one digit, two digits
and so on the two neighbours of the number on that decimal grid are tried; the first grid
with a hit gives the digits, of two hits the nearer.
-/
import ServiceAtlas.Decimal.Binary64

namespace ServiceAtlas.Binary64

/-- A positive number and the interval that rounds to it, as integers: the value is
`value / (4 * 10 ^ places)`, and the interval runs from `low` to `high` on the same scale.
Its ends belong to it when `closed`. -/
structure Interval where
  value : Nat
  low : Nat
  high : Nat
  places : Nat
  closed : Bool

/-- The interval of a positive significand and exponent.  Below a power of two the
neighbouring numbers are twice as dense, so the lower half is half as long there. -/
def interval (m : Nat) (e : Int) : Interval :=
  let unit := if 0 ≤ e then Nat.pow 2 e.toNat else Nat.pow 5 (-e).toNat
  let value := 4 * (m * unit)
  let below := if m = Nat.pow 2 (precision - 1) ∧ minExponent < e then unit else 2 * unit
  { value := value
    low := value - below
    high := value + 2 * unit
    places := (-e).toNat
    closed := m % 2 = 0 }

/-- The point lies in the interval. -/
def Interval.contains (i : Interval) (point : Nat) : Bool :=
  if i.closed then i.low ≤ point && point ≤ i.high else i.low < point && point < i.high

/-- The distance of two natural numbers. -/
def distance (a b : Nat) : Nat :=
  (a - b) + (b - a)

/-- The digits on the grid with the given unit that lie in the interval and nearest to the
value, an even last digit breaking ties. -/
def Interval.onGrid? (i : Interval) (unit : Nat) : Option Nat :=
  let below := i.value / (4 * unit)
  let above := below + 1
  let hit (d : Nat) : Bool := 0 < d && i.contains (4 * (d * unit))
  match hit below, hit above with
  | true, true =>
    let near := distance i.value (4 * (below * unit))
    let far := distance i.value (4 * (above * unit))
    some (if near < far ∨ (near = far ∧ below % 2 = 0) then below else above)
  | true, false => some below
  | false, true => some above
  | false, false => none

/-- The first grid with a hit, going from coarse to fine.  A grid is given by the power of
ten that is its unit, on the scale of the interval. -/
def Interval.firstGrid (i : Interval) : Nat → Nat × Nat
  | 0 => ((i.onGrid? 1).getD (i.value / 4), 0)
  | k + 1 =>
    match i.onGrid? (Nat.pow 10 (k + 1)) with
    | some d => (d, k + 1)
    | none => i.firstGrid k

/-- The shortest digits of a positive number, and the power of ten they are multiplied by. -/
def shortest (m : Nat) (e : Int) : Nat × Int :=
  let i := interval m e
  let (digits, k) := i.firstGrid (decimalLength (i.value / 4))
  (digits, (k : Int) - (i.places : Int))

/-- A digit string without its trailing zeros, and how many there were. -/
def dropZeros (ds : List Char) : List Char × Nat :=
  let kept := (ds.reverse.dropWhile (· = '0')).reverse
  (kept, ds.length - kept.length)

/-- Digits with the decimal point where the exponent puts it: positional from a ten
thousandth up to below ten to the sixteenth, else one digit, the others after the point
and an exponent of at least two digits. -/
def layout (digits : List Char) (exponent : Int) : List Char :=
  let point : Int := digits.length + exponent
  if -4 < point ∧ point ≤ 0 then
    '0' :: '.' :: List.replicate (-point).toNat '0' ++ digits
  else if 0 < point ∧ point ≤ 16 then
    if point < digits.length then digits.take point.toNat ++ '.' :: digits.drop point.toNat
    else digits ++ List.replicate (point.toNat - digits.length) '0' ++ ['.', '0']
  else
    let power := point - 1
    let fraction := if digits.length ≤ 1 then [] else '.' :: digits.drop 1
    let powerDigits := Nat.toDigits 10 power.natAbs
    let padded := if powerDigits.length < 2 then '0' :: powerDigits else powerDigits
    digits.take 1 ++ fraction ++ 'e' :: (if power < 0 then '-' else '+') :: padded

/-- The shortest text that reads back as the number. -/
def text : Binary64 → String
  | finite negative m e =>
    let body :=
      if m = 0 then ['0', '.', '0']
      else
        let (d, k) := shortest m e
        let (digits, dropped) := dropZeros (Nat.toDigits 10 d)
        layout digits (k + (dropped : Int))
    String.ofList (if negative then '-' :: body else body)
  | infinite negative => if negative then "-inf" else "inf"
  | nan => "nan"

end ServiceAtlas.Binary64
