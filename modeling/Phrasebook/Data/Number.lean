import Phrasebook.Decimal.Shortest
import Phrasebook.Dictionary
import Phrasebook.Text.Quoted

/-!
# Data and its numbers

Data is what programs exchange: nothing, truth values, numbers, texts, lists and objects. `Data.found` is how a diagnostic names a piece of data of the wrong kind.

In the text of data a number is an optional minus, digits, an optional point with digits after it, and an optional exponent. One with neither point nor exponent that fits 64 bits is a whole number. Any other is a double, and is read in two steps that both round: the digits are gathered into a whole number for as long as that fits 64 bits, and the double of that number is multiplied or divided by the double of a power of ten. So the double that is read need not be the nearest one.
-/

namespace Phrasebook

open Phrasebook.Text

inductive Data where
  | null
  | bool (value : Bool)
  | integer (value : Int)
  | decimal (value : Decimal.Binary64)
  | text (text : String)
  | list (items : List Data)
  /-- An object, in increasing order of its keys. -/
  | object (fields : List (String × Data))
  deriving Repr, Inhabited

namespace Data

/-- Doubles are written out with a point, unless more than sixteen digits stand before the point or more than four zeros after it; of two decimals as near, the even one is taken. -/
def decimalStyle : Decimal.Style := ⟨.even, ['.', '0'], some (16, 4)⟩

/-- How a diagnostic names a piece of data of the wrong kind. -/
def found : Data → String
  | null => "null"
  | bool value => "boolean `" ++ (if value then "true" else "false") ++ "`"
  | integer value => "integer `" ++ toString value ++ "`"
  | decimal value => "floating point `" ++ decimalStyle.write value ++ "`"
  | .text content => "string " ++ quoted content
  | list _ => "sequence"
  | object _ => "map"

/-- The object with these fields; a later field replaces an earlier one of the same key. -/
def ofFields (fields : List (String × Data)) : Data :=
  object (Dictionary.ofList fields).toList

end Data

end Phrasebook

/-! ### Numbers -/

namespace Phrasebook.Data

open Phrasebook.Decimal

def largestWhole : Nat := 18446744073709551615

def leastWhole : Int := -9223372036854775808

/-- The largest power of ten that is a double. -/
def largestPower : Nat := 308

/-- Gathers digits behind those of a whole number, up to the first that would make it too large; gives the number and the digits that are left. -/
def gather (value : Nat) : List Char → Nat × List Char
  | [] => (value, [])
  | c :: rest =>
    let longer := value * 10 + (c.toNat - '0'.toNat)
    if longer ≤ largestWhole then gather longer rest else (value, c :: rest)

/-- The double nearest to a power of ten. -/
def powerOfTen (power : Nat) : Binary64 := .ofDecimal false 1 power

/-- Divides by a power of ten, by the largest one first for as long as the power is beyond it. -/
def divideByPower (value : Binary64) (power : Nat) : Binary64 :=
  if power ≤ largestPower then value.div (powerOfTen power)
  else if value.isZero then value
  else divideByPower (value.div (powerOfTen largestPower)) (power - largestPower)
termination_by power
decreasing_by simp only [largestPower] at *; omega

/-- The double of a whole number times ten to the power of `exponent`, unless it is infinite. -/
def double? (negative : Bool) (value : Nat) (exponent : Int) : Option Binary64 :=
  let double := Binary64.ofRatio negative value 1
  if exponent < 0 then some (divideByPower double exponent.natAbs)
  else if value = 0 then some double
  else if largestPower < exponent.natAbs then none
  else some (double.mul (powerOfTen exponent.natAbs)) |>.filter Binary64.isFinite

/-- Reads what follows the digits before the point: the digits after it, none if there is no point, and the exponent. -/
def tail? (text : List Char) : Option (List Char × Int) :=
  match text with
  | '.' :: rest =>
    let (fraction, rest) := takeDigits rest
    if fraction.isEmpty then none else (exponent? rest).map fun exponent => (fraction, exponent)
  | _ => (exponent? text).map fun exponent => ([], exponent)

/-- Reads a number. Zero with a minus is a double, which keeps the sign. -/
def number? (text : List Char) : Option Data :=
  let (negative, body) := match text with
    | '-' :: rest => (true, rest)
    | _ => (false, text)
  let (whole, rest) := takeDigits body
  let (value, beyond) := gather 0 whole
  let signed : Int := if negative then -value else value
  let isWhole := rest.isEmpty && beyond.isEmpty && leastWhole ≤ signed && !(negative && value == 0)
  if whole.isEmpty then none
  else if isWhole then some (integer signed)
  else do
    let (fraction, exponent) ← tail? rest
    let (value, unread) := gather value fraction
    let taken := fraction.length - unread.length
    (double? negative value (exponent + beyond.length - taken)).map decimal

end Phrasebook.Data
