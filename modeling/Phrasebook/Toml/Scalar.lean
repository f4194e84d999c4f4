import Phrasebook.Decimal.Binary64
import Phrasebook.Text.Scan

/-!
# TOML values and how they are written

The values of a TOML document, and its lexical level as TOML 1.0 has it: blanks, line ends, comments, strings, keys, numbers and moments. Integers have 64 bits and may be written in base ten, sixteen, eight or two. Decimals are rounded to the nearest double; one that is too large is refused. Moments are dates, times, or both, and must exist in the calendar.
-/

namespace Phrasebook.Toml

open Phrasebook.Text

/-- A value. Tables are lists of entries in increasing order of their keys. -/
inductive Value where
  | text (text : String)
  /-- An integer of 64 bits. -/
  | integer (value : Int)
  | decimal (value : Decimal.Binary64)
  | bool (value : Bool)
  /-- A date, a time, or both, as written. -/
  | moment (text : String)
  | array (items : List Value)
  | table (entries : List (String × Value))
  deriving Repr, Inhabited

/-! ### Lines, strings and keys -/

def isBlank (c : Char) : Bool := c == ' ' || c == '\t'

/-- A character that text may hold: a tab, or anything that is not a control. -/
def isText (c : Char) : Bool := c == '\t' || (' ' ≤ c && c != '\x7f')

/-- A character of a key without quotes. -/
def isBareKey (c : Char) : Bool := c.isAlphanum || c == '_' || c == '-'

def blanks : Scan Unit := Scan.skipWhile isBlank

def newline : Scan Unit
  | '\n' :: rest => some ((), rest)
  | '\r' :: '\n' :: rest => some ((), rest)
  | _ => none

/-- Takes a comment up to the end of its line. -/
def comment : Scan Unit := do
  Scan.char '#'
  Scan.skipWhile isText

/-- Takes what may stand at the end of a line, and its end. -/
def lineEnd : Scan Unit := do
  blanks
  let _ ← Scan.optional comment
  newline <|> Scan.atEnd

/-- One step over blanks, line ends and comments, which tells whether there was any. -/
def gapStep : Scan (Unit × Bool) := do
  blanks
  match ← Scan.peek with
  | some '#' => do comment; newline; return ((), true)
  | some '\n' => do newline; return ((), true)
  | some '\r' => do newline; return ((), true)
  | _ => return ((), false)

/-- Drops blanks, line ends and comments, which may stand between the items of an array. -/
def gap : Scan Unit := do
  let _ ← Scan.collect gapStep

/-- Reads the character whose number has so many hexadecimal digits. -/
def numbered (count : Nat) : Scan Char := do
  let digits ← Scan.exactly count (isDigitOf 16)
  match (number? 16 digits).bind character? with
  | some c => return c
  | none => failure

/-- Reads what follows the backslash of an escape. -/
def escape : Scan Char := do
  match ← Scan.any with
  | 'b' => return '\x08'
  | 't' => return '\t'
  | 'n' => return '\n'
  | 'f' => return '\x0c'
  | 'r' => return '\r'
  | '"' => return '"'
  | '\\' => return '\\'
  | 'u' => numbered 4
  | 'U' => numbered 8
  | _ => failure

/-- One step inside a string of one line that ends in a double quote. -/
def basicStep : Scan (List Char × Bool) := do
  match ← Scan.any with
  | '"' => return ([], false)
  | '\\' => do
    let c ← escape
    return ([c], true)
  | c => do
    guard (isText c)
    return ([c], true)

/-- Reads a string of one line with escapes. -/
def basicString : Scan String := do
  Scan.char '"'
  let pieces ← Scan.collect basicStep
  return String.ofList pieces.flatten

/-- Reads a string of one line without escapes. -/
def literalString : Scan String := do
  Scan.char '\''
  let chars ← Scan.takeWhile fun c => isText c && c != '\''
  Scan.char '\''
  return String.ofList chars

/-- Drops the line end after a backslash, and all blanks and line ends that follow. -/
def lineContinuation : Scan Unit := do
  blanks
  newline
  let _ ← Scan.collect do
    blanks
    match ← Scan.optional newline with
    | some () => return ((), true)
    | none => return ((), false)

/-- Reads a run of quotes inside a string of several lines. Up to two are text; three close the string, and up to two before them are text. -/
def quoteRun (quote : Char) : Scan (List Char × Bool) := do
  let quotes ← Scan.takeWhile (· == quote)
  if quotes.length < 3 then return (quotes, true)
  else do
    guard (quotes.length ≤ 5)
    return (quotes.drop 3, false)

/-- One step inside a string of several lines; `escapes` says whether a backslash escapes. -/
def multilineStep (quote : Char) (escapes : Bool) : Scan (List Char × Bool) := do
  match ← Scan.peek with
  | none => failure
  | some c =>
    if c == quote then quoteRun quote
    else if c == '\n' || c == '\r' then do
      newline
      return (['\n'], true)
    else if escapes && c == '\\' then do
      Scan.char '\\'
      match ← Scan.optional lineContinuation with
      | some () => return ([], true)
      | none => do
        let c ← escape
        return ([c], true)
    else do
      let c ← Scan.satisfy isText
      return ([c], true)

/-- Reads a string of several lines. A line end right after the opening quotes is dropped, and every line end is read as a line feed. -/
def multilineString (quote : Char) (escapes : Bool) : Scan String := do
  Scan.chars [quote, quote, quote]
  let _ ← Scan.optional newline
  let pieces ← Scan.collect (multilineStep quote escapes)
  return String.ofList pieces.flatten

def string : Scan String := do
  match ← get with
  | '"' :: '"' :: '"' :: _ => multilineString '"' true
  | '"' :: _ => basicString
  | '\'' :: '\'' :: '\'' :: _ => multilineString '\'' false
  | _ => literalString

/-- Reads one part of a key. -/
def keyPart : Scan String := do
  match ← Scan.peek with
  | some '"' => basicString
  | some '\'' => literalString
  | _ => do
    let chars ← Scan.takeSome isBareKey
    return String.ofList chars

/-- Nesting and keys deeper than this are refused. -/
def depthLimit : Nat := 80

/-- Reads a key: parts with dots between them and blanks around each. -/
def key : Scan (List String) := do
  let parts ← Scan.collect do
    blanks
    let part ← keyPart
    blanks
    match ← Scan.optional (Scan.char '.') with
    | some () => return (part, true)
    | none => return (part, false)
  guard (parts.length < depthLimit)
  return parts

/-! ### Numbers and moments -/

open Phrasebook.Decimal

/-- The value of digits in a base. -/
def digitsValue (base : Nat) (digits : List Char) : Nat :=
  (number? base digits).getD 0

/-- Reads digits in which single underscores may separate digits, and leaves the underscores out. -/
def digitGroups (p : Char → Bool) : Scan (List Char) := do
  let groups ← Scan.collect do
    let group ← Scan.takeSome p
    match ← Scan.optional (Scan.char '_') with
    | some () => return (group, true)
    | none => return (group, false)
  return groups.flatten

/-- Reads a sign, and tells whether it was a minus. -/
def sign : Scan (Option Bool) :=
  Scan.optional ((do Scan.char '-'; return true) <|> (do Scan.char '+'; return false))

/-- Reads a whole number without a leading zero. -/
def wholeDigits : Scan (List Char) := do
  let digits ← digitGroups Char.isDigit
  guard (digits.head? != some '0' || digits.length == 1)
  return digits

def minInteger : Int := -9223372036854775808

def maxInteger : Int := 9223372036854775807

/-- An integer that is not out of range. -/
def integer (value : Int) : Scan Value :=
  if minInteger ≤ value ∧ value ≤ maxInteger then pure (.integer value) else failure

/-- Reads the digits of an integer in another base, after its mark. -/
def based (base : Nat) : Scan Value := do
  let digits ← digitGroups (isDigitOf base)
  integer (digitsValue base digits)

def exponent : Scan Int := do
  let _ ← Scan.satisfy fun c => c == 'e' || c == 'E'
  let negative ← sign
  let digits ← digitGroups Char.isDigit
  let value : Int := digitsValue 10 digits
  return if negative = some true then -value else value

/-- A decimal that is not too large. -/
def decimal (negative : Bool) (digits : List Char) (exponent : Int) : Scan Value :=
  match Binary64.ofDecimal negative (digitsValue 10 digits) exponent with
  | .infinity false => failure
  | value => pure (.decimal value)

/-- Reads an integer in base ten, or a decimal, after its sign. -/
def plainNumber (negative : Bool) : Scan Value := do
  let whole ← wholeDigits
  match ← Scan.peek with
  | some '.' => do
    Scan.char '.'
    let fraction ← digitGroups Char.isDigit
    let power ← Scan.optional exponent
    decimal negative (whole ++ fraction) (power.getD 0 - fraction.length)
  | some 'e' | some 'E' => do
    let power ← exponent
    decimal negative whole power
  | _ =>
    let value : Int := digitsValue 10 whole
    integer (if negative then -value else value)

def number : Scan Value := do
  match ← get with
  | '0' :: 'x' :: rest => do set rest; based 16
  | '0' :: 'o' :: rest => do set rest; based 8
  | '0' :: 'b' :: rest => do set rest; based 2
  | _ => do
    let negative := (← sign).getD false
    match ← get with
    | 'i' :: 'n' :: 'f' :: rest => do set rest; return .decimal (.infinity negative)
    | 'n' :: 'a' :: 'n' :: rest => do set rest; return .decimal .nan
    | _ => plainNumber negative

/-- Reads a number of so many digits that lies between two bounds. -/
def field (count low high : Nat) : Scan Nat := do
  let digits ← Scan.exactly count Char.isDigit
  let value := digitsValue 10 digits
  guard (low ≤ value && value ≤ high)
  return value

/-- The number of days of a month. -/
def daysInMonth (year month : Nat) : Nat :=
  if month = 2 then
    if year % 4 = 0 ∧ (year % 100 ≠ 0 ∨ year % 400 = 0) then 29 else 28
  else if month = 4 ∨ month = 6 ∨ month = 9 ∨ month = 11 then 30
  else 31

def date : Scan Unit := do
  let year ← field 4 0 9999
  Scan.char '-'
  let month ← field 2 1 12
  Scan.char '-'
  let _ ← field 2 1 (daysInMonth year month)

/-- Takes a time of day; a minute may have a leap second. -/
def time : Scan Unit := do
  let _ ← field 2 0 23
  Scan.char ':'
  let _ ← field 2 0 59
  Scan.char ':'
  let _ ← field 2 0 60
  let _ ← Scan.optional do
    Scan.char '.'
    let _ ← Scan.takeSome Char.isDigit

/-- Takes an offset from universal time. -/
def offset : Scan Unit :=
  (do let _ ← Scan.satisfy fun c => c == 'Z' || c == 'z')
  <|> do
    let _ ← Scan.satisfy fun c => c == '+' || c == '-'
    let _ ← field 2 0 23
    Scan.char ':'
    let _ ← field 2 0 59

/-- Takes a date with or without a time. -/
def dateAndTime : Scan Unit := do
  date
  let _ ← Scan.optional do
    let _ ← Scan.satisfy fun c => c == 'T' || c == 't' || c == ' '
    time
    let _ ← Scan.optional offset

def moment : Scan Value := do
  let chars ← Scan.taken (dateAndTime <|> time)
  return .moment (String.ofList chars)

end Phrasebook.Toml
