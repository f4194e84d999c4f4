import Phrasebook.Text.Controls
import Phrasebook.Text.Cut

/-!
# Reading words by a form

A form says which words a command takes: positional ones, the last of which may repeat, and options with a value. Two dashes alone end the options. The value of an option may be attached by an equals sign, or be the next word, and then it is only judged when the next option or positional word comes or the words end; a word that has no place is reported before it.
-/

namespace Phrasebook.CommandLine

open Phrasebook.Text

/-- What is wrong with the words of a command line. -/
inductive UsageError where
  | unknownCommand (word : String)
  | unexpected (word : String)
  /-- A value is attached to an option that takes none. -/
  | unexpectedValue (value option : String)
  | missing (places : List String)
  | missingValue (option : String) (choices : List String)
  /-- The value of an option is not allowed. -/
  | invalidValue (value option : String) (choices : List String)
  /-- The value of an option has the wrong form. -/
  | malformedValue (value option reason : String)
  /-- An option that may be given once is given again. -/
  | repeated (option : String)
  deriving DecidableEq, Repr, Inhabited

/-- A list of allowed values under a message. -/
def choicesNote (choices : List String) : String :=
  if choices.isEmpty then "" else "\n  [possible values: " ++ ", ".intercalate choices ++ "]"

/-- A word in a message, for a terminal. -/
def cited (word : String) : String := "'" ++ emphasized word ++ "'"

/-- The wording of a usage error, for a terminal. -/
def UsageError.message : UsageError → String
  | unknownCommand word => "unrecognized subcommand " ++ cited word
  | unexpected word => "unexpected argument " ++ cited word ++ " found"
  | unexpectedValue value option =>
    "unexpected value " ++ cited value ++ " for " ++ cited option ++
      " found; no more were expected"
  | missing places =>
    "the following required arguments were not provided:" ++
      String.join (places.map fun place => "\n  " ++ emphasized place)
  | missingValue option choices =>
    "a value is required for " ++ cited option ++ " but none was supplied" ++ choicesNote choices
  | invalidValue value option choices =>
    "invalid value " ++ cited value ++ " for " ++ cited option ++ choicesNote choices
  | malformedValue value option reason =>
    "invalid value " ++ cited value ++ " for " ++ cited option ++ ": " ++ reason
  | repeated option => "the argument " ++ cited option ++ " cannot be used multiple times"

/-- Whether only the value of an option is at fault, and not which words stand where. -/
def UsageError.isAboutValue : UsageError → Bool
  | missingValue .. | invalidValue .. | malformedValue .. => true
  | _ => false

/-- What the values of an option must be. -/
inductive ValueRule where
  | anything
  | oneOf (choices : List String)
  /-- A text for which there is no objection. -/
  | unless (objection? : String → Option String)

structure Flag where
  name : String
  valueName : String
  repeats : Bool
  rule : ValueRule

def Flag.text (flag : Flag) : String := "--" ++ flag.name ++ " <" ++ flag.valueName ++ ">"

/-- What is wrong with a value of an option. -/
def Flag.fault? (flag : Flag) (value : String) : Option UsageError :=
  match flag.rule with
  | .anything => none
  | .oneOf choices =>
    if choices.contains value then none
    else if value.isEmpty then some (.missingValue flag.text choices)
    else some (.invalidValue value flag.text choices)
  | .unless objection? =>
    (objection? value).map fun reason => .malformedValue value flag.text reason

structure Form where
  /-- What stands for the positional words in messages; all are required. -/
  places : List String
  /-- Whether the last place takes any number of words. -/
  repeats : Bool := false
  flags : List Flag := []

/-- What was given to a command. -/
structure Given where
  words : List String := []
  options : List (String × String) := []
  deriving DecidableEq, Repr, Inhabited

/-- The values given to an option. -/
def Given.valuesOf (given : Given) (name : String) : List String :=
  (given.options.filter fun pair => pair.1 == name).map (·.2)

/-- Why words are not read to the end. -/
inductive Stop where
  | help
  | usage (error : UsageError)
  deriving DecidableEq, Repr, Inhabited

/-- An option that has been read and is yet to be judged. -/
inductive Pending where
  | nothing
  /-- The value is yet to come. -/
  | name (flag : Flag)
  /-- The value has come. -/
  | value (flag : Flag) (value : String)

namespace Form

/-- Takes an option with its value. -/
def accept (given : Given) (flag : Flag) (value : String) : Except UsageError Given :=
  if !flag.repeats && !(given.valuesOf flag.name).isEmpty then .error (.repeated flag.text)
  else
    match flag.fault? value with
    | some fault => .error fault
    | none => .ok { given with options := given.options ++ [(flag.name, value)] }

def choicesOf (flag : Flag) : List String :=
  match flag.rule with
  | .oneOf choices => choices
  | _ => []

/-- Judges the option that is yet to be judged. -/
def settle (given : Given) : Pending → Except UsageError Given
  | .nothing => .ok given
  | .name flag => .error (.missingValue flag.text (choicesOf flag))
  | .value flag value => accept given flag value

/-- Whether there is a place for one more positional word. -/
def hasPlace (form : Form) (given : Given) : Bool :=
  form.repeats || given.words.length < form.places.length

def takeWord (form : Form) (given : Given) (pending : Pending) (word : String) :
    Except UsageError Given :=
  if form.hasPlace given then do
    let given ← settle given pending
    return { given with words := given.words ++ [word] }
  else .error (.unexpected word)

/-- Reads the words after two dashes alone. -/
def readPlain (form : Form) (given : Given) (pending : Pending) :
    List String → Except UsageError Given
  | [] => settle given pending
  | word :: rest => do
    let given ← form.takeWord given pending word
    form.readPlain given .nothing rest

/-- Splits a word that begins with two dashes into a name and the value attached to it. -/
def splitOption (body : List Char) : String × Option String :=
  match cut? '=' body with
  | some (name, value) => (String.ofList name, some (String.ofList value))
  | none => (String.ofList body, none)

/-- Asks for help, once the option before is judged. -/
def askHelp (given : Given) (pending : Pending) : Stop :=
  match settle given pending with
  | .ok _ => .help
  | .error error => .usage error

/-- Reads words one after the other. -/
def readWords (form : Form) (given : Given) (pending : Pending) :
    List String → Except Stop Given
  | [] => (settle given pending).mapError .usage
  | word :: rest =>
    match word.toList with
    | ['-', '-'] => (form.readPlain given pending rest).mapError .usage
    | '-' :: '-' :: body =>
      let (name, attached) := splitOption body
      match form.flags.find? fun flag => flag.name == name, attached with
      | some flag, some value => do
        let given ← (settle given pending).mapError .usage
        let given ← (accept given flag value).mapError .usage
        form.readWords given .nothing rest
      | some flag, none => do
        let given ← (settle given pending).mapError .usage
        form.readWords given (.name flag) rest
      | none, attached =>
        if name = "help" then
          match attached with
          | none => .error (askHelp given pending)
          | some value => .error (.usage (.unexpectedValue value "--help"))
        else .error (.usage (.unexpected ("--" ++ name)))
    | '-' :: 'h' :: _ => .error (askHelp given pending)
    | '-' :: c :: _ => .error (.usage (.unexpected (String.ofList ['-', c])))
    | _ =>
      match pending with
      | .name flag => form.readWords given (.value flag word) rest
      | pending => do
        let given ← (form.takeWord given pending word).mapError .usage
        form.readWords given .nothing rest

/-- Reads all words of a command; every place must be filled. -/
def read (form : Form) (words : List String) : Except Stop Given := do
  let given ← form.readWords {} .nothing words
  match form.places.drop given.words.length with
  | [] => return given
  | places => .error (.usage (.missing places))

end Form

end Phrasebook.CommandLine
