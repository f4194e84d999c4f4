import Phrasebook.Data.Number
import Phrasebook.Settings.Load

/-!
# Reading data

Modes, namespaces, arguments and settings are exchanged as data. Reading fails at the first piece that is not what it should be, objects being read in the order of their keys; fields that settings do not have are passed over, and those that are missing take their defaults.
-/

namespace Phrasebook

inductive DataError where
  | invalidType (found expected : String)
  /-- Data of the right kind that has the wrong form. -/
  | invalidValue (found expected : String)
  /-- A name that is not one of the choices. -/
  | unknownVariant (found : String) (choices : List String)
  | invalidLength (length : Nat) (expected : String)
  deriving DecidableEq, Repr, Inhabited

/-- The wording of a reading failure. -/
def DataError.message : DataError → String
  | invalidType found expected => "invalid type: " ++ found ++ ", expected " ++ expected
  | invalidValue found expected => "invalid value: " ++ found ++ ", expected " ++ expected
  | unknownVariant found choices =>
    "unknown variant `" ++ found ++ "`, expected " ++
      " or ".intercalate (choices.map fun choice => "`" ++ choice ++ "`")
  | invalidLength length expected =>
    "invalid length " ++ toString length ++ ", expected " ++ expected

def Data.mismatch {α : Type} (data : Data) (expected : String) : Except DataError α :=
  .error (.invalidType data.found expected)

namespace EscapeMode

def ofKeyword (keyword : String) : Except DataError EscapeMode :=
  match ofKeyword? keyword with
  | some mode => .ok mode
  | none => .error (.unknownVariant keyword (all.map EscapeMode.keyword))

/-- Reads a mode: its keyword, or an object with nothing under its keyword. -/
def ofData : Data → Except DataError EscapeMode
  | .text keyword => ofKeyword keyword
  | .object [(keyword, value)] => do
    let mode ← ofKeyword keyword
    match value with
    | .null => return mode
    | value => value.mismatch "unit"
  | .object _ => .error (.invalidValue "map" "map with a single key")
  | data => data.mismatch "string or map"

def toData (mode : EscapeMode) : Data := .text mode.keyword

end EscapeMode

def Data.readText : Data → Except DataError String
  | .text content => .ok content
  | data => data.mismatch "a string"

namespace Arguments

/-- Reads bindings one after the other. -/
def ofFields : List (String × Data) → Except DataError Arguments
  | [] => .ok .empty
  | (name, value) :: rest => do
    let text ← value.readText
    let arguments ← ofFields rest
    return arguments.insert name text

/-- Reads arguments, which are an object of texts. -/
def ofData : Data → Except DataError Arguments
  | .object fields => ofFields fields
  | data => data.mismatch "a map"

def toData (arguments : Arguments) : Data :=
  .object (arguments.toList.map fun binding => (binding.1, .text binding.2))

end Arguments

namespace Settings

/-- Reads a piece of data that may be missing. -/
def readOr {α : Type} (read : Data → Except DataError α) (default : α) :
    Option Data → Except DataError α
  | some data => read data
  | none => .ok default

/-- Reads settings: an object, or a list of the values in the order of their keys. -/
def ofData : Data → Except DataError Settings
  | .object fields => do
    let defaultService ←
      readOr Data.readText default.defaultService (Entries.lookup defaultServiceKey fields)
    let escapeMode ←
      readOr EscapeMode.ofData default.escapeMode (Entries.lookup escapeModeKey fields)
    return { defaultService, escapeMode }
  | .list items => do
    let defaultService ← readOr Data.readText default.defaultService items[0]?
    let escapeMode ← readOr EscapeMode.ofData default.escapeMode items[1]?
    if 2 < items.length then .error (.invalidLength items.length "fewer elements in array")
    else return { defaultService, escapeMode }
  | data => data.mismatch "struct RuntimeConfig"

def toData (settings : Settings) : Data :=
  .object [(defaultServiceKey, .text settings.defaultService),
    (escapeModeKey, settings.escapeMode.toData)]

end Settings

end Phrasebook
