import Phrasebook.Decimal.Shortest
import Phrasebook.Text.Cut
import Phrasebook.Text.Quoted
import Phrasebook.Toml.Document

/-!
# Setting values

Settings may hold any value, whichever layer they come from, until one is chosen and read. `Value.found` is how a diagnostic names a value of the wrong kind.

The value of an environment variable is a text, which may be a truth value, a number, a quoted text, a character, a list in brackets or a table in braces. Blanks around a value do not count. Whatever is not one value from end to end is the text itself, so every text has a value.
-/

namespace Phrasebook.Settings

open Phrasebook.Text

/-- A value that a layer sets. -/
inductive Value where
  | bool (value : Bool)
  /-- A whole number from a place where whole numbers have signs. -/
  | signed (value : Int)
  /-- A whole number from a place where only negative ones have signs. -/
  | unsigned (value : Nat)
  | decimal (value : Decimal.Binary64)
  | text (text : String)
  | character (c : Char)
  | list (items : List Value)
  /-- A table, in increasing order of its keys. -/
  | table (entries : List (String × Value))
  deriving Repr, Inhabited

/-- Doubles are written out in full, and whole ones without a point; of two decimals as near, the one farther from zero is taken. -/
def decimalStyle : Decimal.Style := ⟨.away, [], none⟩

/-- How a diagnostic names a value of the wrong kind. -/
def Value.found : Value → String
  | .bool value => "bool " ++ (if value then "true" else "false")
  | .signed value => "signed int `" ++ toString value ++ "`"
  | .unsigned value => "unsigned int `" ++ toString value ++ "`"
  | .decimal value => "float `" ++ decimalStyle.write value ++ "`"
  | .text content => "string " ++ quoted content
  | .character c => "string " ++ quoted (String.singleton c)
  | .list _ => "sequence"
  | .table _ => "map"

/-- The key of the table that stands for a moment. -/
def momentKey : String := "$__toml_private_datetime"

/-- A table of a settings file that has this key stands for the value under it. -/
def heldKey : String := "___figment_value_value"

/-- The key that would number the source of a value. No settings file may do so. -/
def sourceKey : String := "___figment_value_id"

namespace Value

/-- The value of a table of a settings file with these entries. -/
def ofEntries? (entries : List (String × Value)) : Option Value :=
  if (Entries.lookup sourceKey entries).isSome then none
  else some ((Entries.lookup heldKey entries).getD (.table entries))

mutual

/-- The setting value of a TOML value, unless a table in it numbers a source. A moment is a table with one entry. -/
def ofToml? : Toml.Value → Option Value
  | .text content => some (Value.text content)
  | .integer value => some (.signed value)
  | .decimal value => some (.decimal value)
  | .bool value => some (.bool value)
  | .moment written => some (.table [(momentKey, Value.text written)])
  | .array items => (ofTomlItems? items).map Value.list
  | .table entries => (ofTomlEntries? entries).bind ofEntries?

/-- The setting values of the items of a TOML array. -/
def ofTomlItems? : List Toml.Value → Option (List Value)
  | [] => some []
  | item :: rest => do
    let value ← ofToml? item
    let values ← ofTomlItems? rest
    return value :: values

/-- The setting values of the entries of a TOML table. -/
def ofTomlEntries? : List (String × Toml.Value) → Option (List (String × Value))
  | [] => some []
  | (key, value) :: rest => do
    let value ← ofToml? value
    let entries ← ofTomlEntries? rest
    return (key, value) :: entries

end

end Value

end Phrasebook.Settings

/-! ### The notation of variables -/

namespace Phrasebook.Settings.Notation

open Phrasebook.Text

/-- A blank between the marks of the notation. -/
def isBlank (c : Char) : Bool :=
  c == ' ' || c == '\t' || c == '\n' || c == '\r' || c == '\x0c'

/-- A character that Unicode counts as white space. -/
def isSpace (c : Char) : Bool :=
  isBlank c || c == '\x0b' || c == '\u0085' || c == '\u00a0' || c == '\u1680' ||
    ('\u2000' ≤ c && c ≤ '\u200a') || c == '\u2028' || c == '\u2029' || c == '\u202f' ||
    c == '\u205f' || c == '\u3000'

/-- A text without the white space at its ends. -/
def trim (text : List Char) : List Char :=
  ((text.dropWhile isSpace).reverse.dropWhile isSpace).reverse

/-- A character that may stand in a value without marks. -/
def isPlain (c : Char) : Bool :=
  !(c == ',' || c == '{' || c == '}' || c == '[' || c == ']')

/-- A character of a key without quotes. -/
def isKeyChar (c : Char) : Bool := c.isAlphanum || c == '_' || c == '-'

/-- A character that quoted text may hold as it is. -/
def isQuotable (c : Char) : Bool := c == '\t' || (' ' ≤ c && c != '\x7f')

def blanks : Scan Unit := Scan.skipWhile isBlank

/-- Reads the character whose number has so many hexadecimal digits. -/
def numbered (count : Nat) : Scan Char := do
  let digits ← Scan.exactly count (isDigitOf 16)
  match (number? 16 digits).bind character? with
  | some c => return c
  | none => failure

/-- Reads what follows the backslash of an escape. -/
def escape : Scan Char := do
  match ← Scan.any with
  | '"' => return '"'
  | '\\' => return '\\'
  | 'b' => return '\x08'
  | 'f' => return '\x0c'
  | 'n' => return '\n'
  | 'r' => return '\r'
  | 't' => return '\t'
  | 'u' => numbered 4
  | 'U' => numbered 8
  | _ => failure

structure QuotedChar where
  char : Char
  isEscaped : Bool
  deriving DecidableEq, Repr, Inhabited

/-- One step inside quoted text, up to its closing mark. -/
def quotedStep : Scan (Option QuotedChar × Bool) := do
  match ← Scan.any with
  | '"' => return (none, false)
  | '\\' => do
    let c ← escape
    return (some ⟨c, true⟩, true)
  | c => do
    guard (isQuotable c)
    return (some ⟨c, false⟩, true)

/-- The text that quoted characters come to. Without escapes it is the characters themselves. Of what stands before the first escape only so many bytes are kept as it has characters, so a character of more than one byte costs it others. -/
def quotedContent (chars : List QuotedChar) : List Char :=
  let before := (chars.takeWhile fun c => !c.isEscaped).map QuotedChar.char
  let after := (chars.dropWhile fun c => !c.isEscaped).map QuotedChar.char
  if after.isEmpty then before else takeBytes before.length before ++ after

def quotedText : Scan String := do
  Scan.char '"'
  let chars ← Scan.collect quotedStep
  return String.ofList (quotedContent (chars.filterMap id))

def maxUnsigned : Nat := 18446744073709551615

def minSigned : Int := -9223372036854775808

/-- Reads a whole number that is not out of range. A plus sign may precede it. -/
def whole? (text : List Char) : Option Value :=
  let (negative, digits) := Decimal.takeSign text
  (number? 10 digits).bind fun value =>
    if negative then
      if minSigned ≤ -(value : Int) then some (.signed (-value)) else none
    else if value ≤ maxUnsigned then some (.unsigned value)
    else none

/-- The value of a text without marks: a decimal if it has a point and reads as one, else a whole number if it reads as one, else the text. -/
def plainValue (text : List Char) : Value :=
  let decimal? := if text.contains '.' then (Decimal.read? text).map Value.decimal else none
  match decimal?.or (whole? text) with
  | some value => value
  | none => .text (String.ofList text)

/-- Reads the items of a list or a table up to its closing mark; the last may be followed by a comma. -/
def items {α : Type} (close : Char) (item : Scan α) : Scan (List α) := do
  let found ← Scan.collect do
    match ← Scan.optional (Scan.char close) with
    | some () => return (none, false)
    | none => do
      let value ← item
      match ← Scan.optional (Scan.char ',') with
      | some () => return (some value, true)
      | none => do
        Scan.char close
        return (some value, false)
  return found.filterMap id

/-- Reads the key of a table entry. -/
def key : Scan String := do
  match ← Scan.peek with
  | some '"' => quotedText
  | _ => do
    let chars ← Scan.takeSome isKeyChar
    return String.ofList chars

/-- Reads an entry of a table. -/
def entry (value : Scan Value) : Scan (String × Value) := do
  blanks
  let name ← key
  blanks
  Scan.char '='
  let v ← value
  return (name, v)

/-- Reads a value in which at most so many lists and tables are nested, with the blanks around it. -/
def value : Nat → Scan Value
  | 0 => failure
  | depth + 1 => do
    blanks
    let v ← match ← get with
      | 't' :: 'r' :: 'u' :: 'e' :: rest => do set rest; pure (Value.bool true)
      | 'f' :: 'a' :: 'l' :: 's' :: 'e' :: rest => do set rest; pure (Value.bool false)
      | '{' :: rest => do
        set rest
        let entries ← items '}' (entry (value depth))
        pure (Value.table (Dictionary.ofList entries).toList)
      | '[' :: rest => do
        set rest
        let values ← items ']' (value depth)
        pure (Value.list values)
      | '"' :: _ => do
        let text ← quotedText
        pure (Value.text text)
      | '\'' :: c :: '\'' :: rest => do set rest; pure (Value.character c)
      | '\'' :: _ => failure
      | _ => do
        let chars ← Scan.takeWhile isPlain
        pure (plainValue (trim chars))
    blanks
    return v

def read (text : String) : Value :=
  (Scan.readAll (value (text.length + 1)) text.toList).getD (.text text)

end Phrasebook.Settings.Notation
