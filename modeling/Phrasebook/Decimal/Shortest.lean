import Phrasebook.Decimal.Binary64

/-!
# The shortest decimal of a double

Every double is written with the fewest digits that read back as the same double, and of those with the ones nearest to it. A grid is the whole multiples of a power of ten. If any point of a grid reads back, then so does one of the two points around the number, so grids are tried from coarse to fine and the first one with such a point gives the digits. How digits become text is up to a `Style`.
-/

namespace Phrasebook.Decimal

/-- Which of two grid points is taken when both are as near. -/
inductive Tie where
  /-- The one farther from zero. -/
  | away
  /-- The even one. -/
  | even
  deriving DecidableEq, Repr, Inhabited

namespace Shortest

/-- The fraction `num / den` divided by ten to the power of `exponent`. -/
def onGrid (num den : Nat) (exponent : Int) : Nat × Nat :=
  if exponent < 0 then (num * Nat.pow 10 exponent.natAbs, den)
  else (num, den * Nat.pow 10 exponent.natAbs)

/-- The numbers that read back as a double, all over one denominator: the ends of an interval around the number itself. -/
structure Interval where
  /-- The numerator of the lower end. -/
  low : Nat
  /-- The numerator of the double. -/
  middle : Nat
  /-- The numerator of the upper end. -/
  high : Nat
  /-- The common denominator. -/
  den : Nat
  /-- Whether the ends read back too. -/
  closed : Bool

/-- The interval of a double with this mantissa and exponent. The lower neighbour is nearer where the exponent changes. -/
def interval (mantissa : Nat) (exponent : Int) : Interval :=
  let below := if mantissa = Binary64.leastMantissa ∧ Binary64.minExponent < exponent then 1 else 2
  let quarter := exponent - 2
  let up := if quarter < 0 then 1 else 1 <<< quarter.natAbs
  let den := if quarter < 0 then 1 <<< quarter.natAbs else 1
  { low := (4 * mantissa - below) * up
    middle := 4 * mantissa * up
    high := (4 * mantissa + 2) * up
    den
    closed := mantissa % 2 = 0 }

/-- Whether the fraction `num / den` reads back as the double. -/
def Interval.holds (i : Interval) (num den : Nat) : Bool :=
  if i.closed then i.low * den ≤ num * i.den && num * i.den ≤ i.high * den
  else i.low * den < num * i.den && num * i.den < i.high * den

/-- The nearer of two neighbouring grid points to the fraction `num / den` between them. -/
def nearer (tie : Tie) (num den : Nat) : Nat :=
  let low := num / den
  let twice := 2 * (num % den)
  if twice < den then low
  else if den < twice then low + 1
  else
    match tie with
    | .away => low + 1
    | .even => low + low % 2

/-- The grid point that reads back, if there is one, and of two the nearer. -/
def Interval.hit? (tie : Tie) (i : Interval) (exponent : Int) : Option Nat :=
  let (num, den) := onGrid i.middle i.den exponent
  let low := num / den
  let reads (point : Nat) : Bool :=
    if exponent < 0 then i.holds point (Nat.pow 10 exponent.natAbs)
    else i.holds (point * Nat.pow 10 exponent.natAbs) 1
  match reads low, reads (low + 1) with
  | true, true => some (nearer tie num den)
  | true, false => some low
  | false, true => some (low + 1)
  | false, false => none

/-- The power of ten of the coarsest grid tried. -/
def coarsest : Int := 309

/-- How many grids are tried; the finest is finer than what seventeen digits of the smallest double need. -/
def grids : Nat := 660

/-- The digits, as one whole number, and the power of ten they are counted in. -/
def digits (tie : Tie) (mantissa : Nat) (exponent : Int) : Nat × Int :=
  let i := interval mantissa exponent
  let hit := (List.range grids).findSome? fun (step : Nat) =>
    (i.hit? tie (coarsest - step)).map fun digits => (digits, coarsest - step)
  hit.getD (0, 0)

end Shortest

/-- How the digits of a number become text. -/
structure Style where
  /-- Which of two decimals as near is taken. -/
  tie : Tie
  /-- What follows the digits of a whole number. -/
  wholeEnding : List Char
  /-- Numbers are written out when so many digits at most stand before the point, and so many zeros at most after it; others with an exponent. -/
  writtenOut : Option (Int × Int)

namespace Style

/-- The text of digits that are counted in a power of ten. An exponent always has a sign. -/
def render (style : Style) (digits : Nat) (exponent : Int) : List Char :=
  let chars := Nat.toDigits 10 digits
  let point : Int := exponent + chars.length
  let isWrittenOut := match style.writtenOut with
    | none => true
    | some (before, after) => point ≤ before && -point ≤ after
  if isWrittenOut then
    if 0 ≤ exponent then chars ++ List.replicate exponent.natAbs '0' ++ style.wholeEnding
    else if 0 < point then chars.take point.natAbs ++ '.' :: chars.drop point.natAbs
    else '0' :: '.' :: List.replicate point.natAbs '0' ++ chars
  else
    let tail := match chars.drop 1 with
      | [] => []
      | more => '.' :: more
    let sign := if 0 < point then '+' else '-'
    chars.take 1 ++ tail ++ 'e' :: sign :: Nat.toDigits 10 (point - 1).natAbs

/-- The text of a double. -/
def write (style : Style) : Binary64 → String
  | .nan => "NaN"
  | .infinity negative => if negative then "-inf" else "inf"
  | .finite negative mantissa exponent =>
    let body :=
      if mantissa = 0 then '0' :: style.wholeEnding
      else
        let (digits, exponent) := Shortest.digits style.tie mantissa exponent
        style.render digits exponent
    String.ofList (if negative then '-' :: body else body)

end Style

end Phrasebook.Decimal
