import Phrasebook.Text.Numeral

/-!
# Double-precision numbers

A double is held as what it means: a sign, and a whole number times a power of two. `ofRatio` rounds a fraction to the nearest double, a tie to the one with the even mantissa, in exact arithmetic. Products and quotients are those of the exact values, rounded once.

A decimal is an optional sign, digits with at most one point among them and at least one digit, and an optional exponent. `read?` reads it as the nearest double.
-/

namespace Phrasebook.Decimal

inductive Binary64 where
  | nan
  | infinity (negative : Bool)
  /-- The mantissa times two to the power of the exponent. -/
  | finite (negative : Bool) (mantissa : Nat) (exponent : Int)
  deriving DecidableEq, Repr, Inhabited

namespace Binary64

/-- The exponent of the smallest numbers. -/
def minExponent : Int := -1074

/-- The exponent of the largest numbers. -/
def maxExponent : Int := 971

/-- The least mantissa of a number whose exponent is not the smallest one. -/
def leastMantissa : Nat := 1 <<< 52

def zero (negative : Bool) : Binary64 := finite negative 0 minExponent

/-- The whole number nearest to a fraction, a tie to the even one. -/
def roundHalfEven (num den : Nat) : Nat :=
  let low := num / den
  let twice := 2 * (num % den)
  if twice < den then low
  else if den < twice then low + 1
  else if low % 2 = 0 then low
  else low + 1

/-- The fraction `num / den` divided by two to the power of `exponent`, as numerator and denominator. -/
def scale (num den : Nat) (exponent : Int) : Nat × Nat :=
  if exponent < 0 then (num <<< exponent.natAbs, den) else (num, den <<< exponent.natAbs)

/-- The double nearest to the fraction `num / den`. -/
def ofRatio (negative : Bool) (num den : Nat) : Binary64 :=
  if num = 0 then zero negative
  else
    let guess : Int := num.log2 - den.log2 - 52
    let (n, d) := scale num den guess
    let exponent := max minExponent (if n / d < leastMantissa then guess - 1 else guess)
    let (n, d) := scale num den exponent
    let mantissa := roundHalfEven n d
    let (mantissa, exponent) :=
      if mantissa = 2 * leastMantissa then (leastMantissa, exponent + 1) else (mantissa, exponent)
    if maxExponent < exponent then infinity negative else finite negative mantissa exponent

/-- A decimal exponent beyond which every number with so many digits before the point is infinite. -/
def overflowPoint : Int := 310

/-- A decimal exponent below which every number with so many digits before the point is zero. -/
def underflowPoint : Int := -330

/-- The double nearest to `digits` times ten to the power of `exponent`. -/
def ofDecimal (negative : Bool) (digits : Nat) (exponent : Int) : Binary64 :=
  let point : Int := exponent + (Nat.toDigits 10 digits).length
  if digits = 0 then zero negative
  else if overflowPoint < point then infinity negative
  else if point < underflowPoint then zero negative
  else if exponent < 0 then ofRatio negative digits (Nat.pow 10 exponent.natAbs)
  else ofRatio negative (digits * Nat.pow 10 exponent.natAbs) 1

/-- Whether a double is a zero of either sign. -/
def isZero : Binary64 → Bool
  | finite _ mantissa _ => mantissa == 0
  | _ => false

/-- Whether a double is a finite number. -/
def isFinite : Binary64 → Bool
  | finite .. => true
  | _ => false

/-- A mantissa times two to the power of an exponent, as numerator and denominator. -/
def ratio (mantissa : Nat) (exponent : Int) : Nat × Nat :=
  if exponent < 0 then (mantissa, 1 <<< exponent.natAbs) else (mantissa <<< exponent.natAbs, 1)

/-- The double nearest to a product. -/
def mul : Binary64 → Binary64 → Binary64
  | finite a m e, finite b n f =>
    let (num, den) := ratio (m * n) (e + f)
    ofRatio (a != b) num den
  | infinity a, infinity b => infinity (a != b)
  | infinity a, finite b n _ => if n = 0 then nan else infinity (a != b)
  | finite a m _, infinity b => if m = 0 then nan else infinity (a != b)
  | nan, _ | _, nan => nan

/-- The double nearest to a quotient. -/
def div : Binary64 → Binary64 → Binary64
  | finite a m e, finite b n f =>
    if n = 0 then (if m = 0 then nan else infinity (a != b))
    else
      let (num, den) := ratio m (e - f)
      ofRatio (a != b) num (den * n)
  | infinity a, finite b _ _ => infinity (a != b)
  | finite a _ _, infinity b => zero (a != b)
  | infinity _, infinity _ => nan
  | nan, _ | _, nan => nan

end Binary64

/-! ### Reading decimals -/

open Phrasebook.Text

/-- Takes a sign off, and tells whether it was a minus. -/
def takeSign : List Char → Bool × List Char
  | '-' :: rest => (true, rest)
  | '+' :: rest => (false, rest)
  | text => (false, text)

/-- Reads the exponent that may end a decimal. -/
def exponent? : List Char → Option Int
  | [] => some 0
  | c :: rest =>
    if c = 'e' ∨ c = 'E' then
      let (negative, digits) := takeSign rest
      (number? 10 digits).map fun value => if negative then -(value : Int) else value
    else none

/-- Splits digits from what follows them. -/
def takeDigits (text : List Char) : List Char × List Char :=
  (text.takeWhile Char.isDigit, text.dropWhile Char.isDigit)

/-- Reads a decimal as the nearest double. -/
def read? (text : List Char) : Option Binary64 :=
  let (negative, body) := takeSign text
  let (whole, rest) := takeDigits body
  let (fraction, rest) := match rest with
    | '.' :: rest => takeDigits rest
    | rest => ([], rest)
  match number? 10 (whole ++ fraction), exponent? rest with
  | some digits, some exponent =>
    some (Binary64.ofDecimal negative digits (exponent - fraction.length))
  | _, _ => none

end Phrasebook.Decimal
