import Phrasebook.FileTree
import Phrasebook.Service.Registry
import Phrasebook.Template

/-!
# Errors

A fault in settings tells what is wrong with a value, under which key it stands, and which layer set it. Everything that can fail here fails with an `Error`, which has a wording for people and a diagnostic form. Any error can be passed through a place that only knows faults in settings; it comes back as a fault in settings, with its wording kept.
-/

/-! ### Faults in settings -/

namespace Phrasebook.Settings

open Phrasebook.Text

/-- What the names of the variables begin with, in any case. -/
def variableStem : String := "SVCMSG_"

/-- The layer that set a value. -/
inductive Origin where
  | builtin
  | file (path : String)
  | environment
  deriving DecidableEq, Repr, Inhabited

def Origin.name : Origin → String
  | builtin => "built-in defaults"
  | file path => tidyPath path ++ " TOML file"
  | environment => "`" ++ variableStem ++ "` environment variable(s)"

/-- How a layer spells a key. -/
def Origin.spell (path : List String) : Origin → String
  | builtin => ".".intercalate path
  | file _ => ".".intercalate ("default" :: path)
  | environment => ".".intercalate (path.map fun key => String.ofList (key.toList.map Char.toUpper))

inductive Problem where
  | message (text : String)
  | invalidType (found expected : String)
  /-- A name that is not one of the choices. -/
  | unknownVariant (found : String) (choices : List String)
  deriving DecidableEq, Repr, Inhabited

def choicesText (choices : List String) : String :=
  " or ".intercalate (choices.map fun choice => "`" ++ choice ++ "`")

def Problem.text : Problem → String
  | message text => text
  | invalidType found expected => "invalid type: found " ++ found ++ ", expected " ++ expected
  | unknownVariant found choices =>
    "unknown variant: found `" ++ found ++ "`, expected `" ++ choicesText choices ++ "`"

/-- A problem with the place where it was met. -/
structure Fault where
  problem : Problem
  path : List String := []
  origin : Option Origin := none
  deriving DecidableEq, Repr, Inhabited

/-- A fault that is only told in words. -/
def Fault.ofMessage (text : String) : Fault := { problem := .message text }

def Fault.text (fault : Fault) : String :=
  match fault.origin with
  | none => fault.problem.text
  | some origin =>
    let key := if fault.path.isEmpty then "" else " for key " ++ quoted (origin.spell fault.path)
    fault.problem.text ++ key ++ " in " ++ origin.name

end Phrasebook.Settings

/-! ### All errors -/

namespace Phrasebook

open Phrasebook.Text

inductive Error where
  | service (refusal : Service.Refusal)
  | format (error : FormatError)
  | settings (fault : Settings.Fault)
  /-- The settings file that was asked for is not there. -/
  | missingFile (path : String)
  deriving DecidableEq, Repr, Inhabited

/-- A placeholder fault as a diagnostic. -/
def PlaceholderFault.diagnostic : PlaceholderFault → String
  | unterminated => "Unterminated"
  | invalidName name => "InvalidName(" ++ quoted name ++ ")"
  | reservedSequence => "ReservedSequence"

/-- A formatting failure as a diagnostic. -/
def FormatError.diagnostic : FormatError → String
  | malformed position fault =>
    "Syntax \x7b position: " ++ toString position ++ ", kind: " ++ fault.diagnostic ++ " \x7d"
  | unbound name => "UnboundPlaceholder \x7b name: " ++ quoted name ++ " \x7d"
  | argumentCount expected actual =>
    "ArgumentCount \x7b expected: " ++ toString expected ++ ", actual: " ++ toString actual ++ " \x7d"

def Service.Refusal.diagnostic : Service.Refusal → String
  | unregistered space => "Unregistered \x7b namespace: " ++ diagnosticSpace space ++ " \x7d"
  | defaultSealed requested current =>
    "DefaultSealed \x7b requested: " ++ diagnosticSpace requested ++ ", current: " ++
      diagnosticSpace current ++ " \x7d"

namespace Error

def message : Error → String
  | service refusal => refusal.message
  | format error => error.message
  | settings fault => "Failed to load configuration: " ++ fault.text
  | missingFile path => "Configuration file '" ++ path ++ "' does not exist"

def diagnostic : Error → String
  | service refusal => "Registry(" ++ refusal.diagnostic ++ ")"
  | format error => "Format(" ++ error.diagnostic ++ ")"
  | settings fault => "Config(" ++ quoted fault.text ++ ")"
  | missingFile path => "MissingConfigFile \x7b path: " ++ quoted path ++ " \x7d"

/-- An error where only faults in settings are known. -/
def toFault : Error → Settings.Fault
  | settings fault => fault
  | error => .ofMessage error.message

/-- A fault in settings as an error. -/
def ofFault (fault : Settings.Fault) : Error := settings fault

end Error

end Phrasebook
