/-!
# Numerals

Digits of the bases up to sixteen, ASCII only, letters in either case, and the numbers that they write. `number?` reads a number without a bound on its size. `word?` reads one that is kept in 32 bits: a product or a sum that needs more is refused, so the number never wraps, and leading zeros take no room.
-/

namespace Phrasebook.Text

def digit? (base : Nat) (c : Char) : Option Nat :=
  let value? :=
    if '0' ≤ c ∧ c ≤ '9' then some (c.toNat - '0'.toNat)
    else if 'a' ≤ c ∧ c ≤ 'f' then some (c.toNat - 'a'.toNat + 10)
    else if 'A' ≤ c ∧ c ≤ 'F' then some (c.toNat - 'A'.toNat + 10)
    else none
  value?.filter (· < base)

/-- Whether a character is a digit of a base. -/
def isDigitOf (base : Nat) (c : Char) : Bool := (digit? base c).isSome

/-- Reads digits, most significant first, on top of the value already read. -/
def digitsFrom? (base : Nat) (value : Nat) : List Char → Option Nat
  | [] => some value
  | c :: rest =>
    match digit? base c with
    | some d => digitsFrom? base (value * base + d) rest
    | none => none

/-- Reads one or more digits and nothing else. -/
def number? (base : Nat) : List Char → Option Nat
  | [] => none
  | digits => digitsFrom? base 0 digits

/-- The character with this number, where there is one. -/
def character? (value : Nat) : Option Char :=
  if value.isValidChar then some (Char.ofNat value) else none

/-! ### Words -/

/-- The product of two words, if it is a word. -/
def checkedMul? (left right : UInt32) : Option UInt32 :=
  if left.toNat * right.toNat < UInt32.size then some (left * right) else none

/-- The sum of two words, if it is a word. -/
def checkedAdd? (left right : UInt32) : Option UInt32 :=
  if left.toNat + right.toNat < UInt32.size then some (left + right) else none

private theorem ite_eq_some_iff_of_wraps {exact : Nat} {wrapped word : UInt32}
    (hwrapped : wrapped.toNat = exact % UInt32.size) :
    (if exact < UInt32.size then some wrapped else none) = some word ↔ exact = word.toNat := by
  split
  · next hlt => rw [Option.some.injEq, ← UInt32.toNat_inj, hwrapped, Nat.mod_eq_of_lt hlt]
  · next hge =>
    constructor
    · intro h
      cases h
    · rintro rfl
      exact absurd word.toNat_lt hge

theorem checkedMul?_eq_some_iff {left right word : UInt32} :
    checkedMul? left right = some word ↔ left.toNat * right.toNat = word.toNat :=
  ite_eq_some_iff_of_wraps (UInt32.toNat_mul left right)

theorem checkedAdd?_eq_some_iff {left right word : UInt32} :
    checkedAdd? left right = some word ↔ left.toNat + right.toNat = word.toNat :=
  ite_eq_some_iff_of_wraps (UInt32.toNat_add left right)

/-- Puts a digit behind those of a word. -/
def pushDigit? (base word : UInt32) (c : Char) : Option UInt32 := do
  let digit ← digit? base.toNat c
  let shifted ← checkedMul? word base
  checkedAdd? shifted (UInt32.ofNat digit)

/-- Reads digits, most significant first, on top of the word already read. -/
def wordFrom? (base word : UInt32) : List Char → Option UInt32
  | [] => some word
  | c :: rest => (pushDigit? base word c).bind fun longer => wordFrom? base longer rest

/-- Reads one or more digits as a word. -/
def wordOfDigits? (base : UInt32) : List Char → Option UInt32
  | [] => none
  | digits => wordFrom? base 0 digits

/-- Reads a word, before which a plus sign may stand. -/
def word? (base : UInt32) : List Char → Option UInt32
  | '+' :: digits => wordOfDigits? base digits
  | digits => wordOfDigits? base digits

end Phrasebook.Text
