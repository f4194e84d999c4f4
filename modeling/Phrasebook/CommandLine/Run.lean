import Phrasebook.CommandLine.Command
import Phrasebook.Name
import Phrasebook.Settings.Load
import Phrasebook.Template

/-!
# Running commands

A command sees the disk and the environment, prints lines and may fail. What was printed before a failure stays printed, so whether a failing command prints anything is a matter of what it does first. `format` and `default` load the settings first, so a fault there is reported whatever else is wrong.
-/

namespace Phrasebook.CommandLine

/-- A list of lines as a text. -/
def linesText (lines : List String) : String :=
  String.join (lines.map fun line => line ++ "\n")

/-- Loads the settings, with the file that the command line names if it names one. -/
def loadSettings (disk : Disk) (environment : Settings.Environment) (file : Option String) :
    Except Error Settings :=
  match file with
  | some path => Settings.loadFrom disk environment (some path)
  | none => Settings.load disk environment

/-- A command at work. It may fail, and what it has printed is kept also then. -/
abbrev Printing := ExceptT Error (StateM String)

/-- A step that prints nothing. -/
def silently {α : Type} (step : Except Error α) : Printing α := ExceptT.mk (pure step)

def printLine (line : String) : Printing Unit := modify fun printed => printed ++ line ++ "\n"

/-- What a command does. The mode on the command line goes before the one in the settings, and of bindings with one name the last counts. -/
def Command.run (disk : Disk) (environment : Settings.Environment) : Command → Printing Unit
  | .format template bindings mode file => do
    let settings ← silently (loadSettings disk environment file)
    let mode := mode.getD settings.escapeMode
    let outcome := Phrasebook.format template (Dictionary.ofList bindings) mode
    let text ← silently (outcome.mapError .format)
    printLine text
  | .names naturals => (canonicalNames naturals).forM printLine
  | .key space => printLine (Service.Key.derive space).text
  | .default file => do
    let settings ← silently (loadSettings disk environment file)
    printLine settings.defaultService
    printLine (Service.Key.derive settings.defaultService).text

/-- How a command ends, and what it has printed by then. -/
def Command.result (disk : Disk) (environment : Settings.Environment) (command : Command) :
    Except Error Unit × String :=
  (command.run disk environment).run.run ""

/-- The name and version of the program. -/
def versionText : String := "svcmsg 0.3.0"

def aboutText : String := "Derive registry keys and format placeholder messages"

def usageText : Option Topic → String
  | none => "Usage: svcmsg <COMMAND>"
  | some topic =>
    let options := if topic.form.flags.isEmpty then "" else " [OPTIONS]"
    "Usage: svcmsg " ++ topic.word ++ options ++
      String.join (topic.form.places.map fun place => " " ++ place)

/-- One line of help, with what is explained in a column of its own. -/
def helpLine (width : Nat) (term explanation : String) : String :=
  let padding := String.ofList (List.replicate (width - term.length) ' ')
  "  " ++ term ++ padding ++ "  " ++ explanation

/-- The line of help on asking for help. -/
def helpOption : String × String := ("-h, --help", "Print help")

def programHelp : List String :=
  let commands := Topic.all.map (fun topic => helpLine 7 topic.word topic.about) ++
    [helpLine 7 Request.helpWord "Print this message or the help of the given subcommand(s)"]
  let options :=
    [helpLine 13 helpOption.1 helpOption.2, helpLine 13 "-V, --version" "Print version"]
  [aboutText, "", usageText none, "", "Commands:"] ++ commands ++ ["", "Options:"] ++ options

def topicHelp (topic : Topic) : List String :=
  let options := topic.form.flags.map fun flag => "      " ++ flag.text
  [topic.about, "", usageText (some topic), "", "Options:"] ++ options ++
    [helpLine 10 helpOption.1 helpOption.2]

structure Outcome where
  code : Nat
  output : String
  diagnostics : String
  deriving DecidableEq, Repr, Inhabited

/-- How a mistake is told on a terminal. How a command is called is only told where that was the mistake. -/
def mistakeText (topic : Option Topic) (error : UsageError) : String :=
  let usage := if error.isAboutValue then [] else [usageText topic, ""]
  linesText ([Text.emphasized "error:" ++ " " ++ error.message, ""] ++ usage ++
    ["For more information, try " ++ cited "--help" ++ "."])

/-- Answers a request. Mistakes are told without the emphasis, and without any controls that came in with the words. -/
def Request.answer (disk : Disk) (environment : Settings.Environment) : Request → Outcome
  | .run command =>
    match command.result disk environment with
    | (.ok (), output) => ⟨0, output, ""⟩
    | (.error error, output) => ⟨1, output, "Error: Library(" ++ error.diagnostic ++ ")\n"⟩
  | .version => ⟨0, linesText [versionText], ""⟩
  | .help none => ⟨0, linesText programHelp, ""⟩
  | .help (some topic) => ⟨0, linesText (topicHelp topic), ""⟩
  | .nothing => ⟨2, "", linesText programHelp⟩
  | .mistake topic error => ⟨2, "", Text.shown (mistakeText topic error)⟩

/-- The paths of the files that a request may read. -/
def Request.paths (environment : Settings.Environment) : Request → List String
  | .run (.format _ _ _ (some path)) => [path]
  | .run (.default (some path)) => [path]
  | .run _ => (environment.get? Settings.pathVariable).toList
  | _ => []

/-- Runs the program on the words of its command line. -/
def execute (disk : Disk) (environment : Settings.Environment) (words : List String) : Outcome :=
  (Request.ofWords words).answer disk environment

end Phrasebook.CommandLine
