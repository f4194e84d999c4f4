import Phrasebook.CommandLine.Usage
import Phrasebook.Entity

/-!
# Commands

The command line has four commands. `format` puts arguments into a template, `names` lists canonical names, `key` prints the key of a namespace, and `default` prints the default namespace and its key. Help can be asked for at any point.
-/

namespace Phrasebook.CommandLine

open Phrasebook.Text

/-- What the program is asked to do. -/
inductive Command where
  | format (template : String) (bindings : List (String × String)) (mode : Option EscapeMode)
      (file : Option String)
  | names (naturals : List String)
  | key (space : String)
  | default (file : Option String)
  deriving DecidableEq, Repr, Inhabited

/-- Reads a binding: a name that is not empty, an equals sign, and a value, which may hold more of them. -/
def binding? (text : String) : Option (String × String) :=
  match cut? '=' text.toList with
  | some ([], _) => none
  | some (name, value) => some (String.ofList name, String.ofList value)
  | none => none

/-- What is wrong with the text of a binding. -/
def bindingObjection? (text : String) : Option String :=
  if (binding? text).isSome then none else some ("expected NAME=VALUE, got '" ++ text ++ "'")

/-- The option that binds an argument. -/
def bindingFlag : Flag := ⟨"arg", "NAME=VALUE", true, .unless bindingObjection?⟩

/-- The option that chooses the escape mode. -/
def modeFlag : Flag :=
  ⟨"escape-mode", "ESCAPE_MODE", false, .oneOf (EscapeMode.all.map EscapeMode.option)⟩

/-- The option that names the settings file. -/
def fileFlag : Flag := ⟨"config", "path", false, .anything⟩

/-- The commands by their words, besides help. -/
inductive Topic where
  | format
  | names
  | key
  | default
  deriving DecidableEq, Repr, Inhabited

namespace Topic

/-- The commands in the order in which help lists them. -/
def all : List Topic := [format, names, key, default]

def word : Topic → String
  | format => "format"
  | names => "names"
  | key => "key"
  | default => "default"

def about : Topic → String
  | format => "Render a `\x7b$name\x7d` template with named arguments"
  | names => "Print the canonical placeholder name for each natural name"
  | key => "Print the registry key derived from a namespace"
  | default => "Print the configured default namespace and its key"

def ofWord? (word : String) : Option Topic := all.find? fun topic => topic.word == word

def form : Topic → Form
  | format => { places := ["<TEMPLATE>"], flags := [bindingFlag, modeFlag, fileFlag] }
  | names => { places := ["<NATURAL>..."], repeats := true }
  | key => { places := ["<NAMESPACE>"] }
  | default => { places := [], flags := [fileFlag] }

/-- The command that the words given to it make. -/
def command (given : Given) : Topic → Command
  | format =>
    .format (given.words.head?.getD "")
      ((given.valuesOf bindingFlag.name).filterMap binding?)
      ((given.valuesOf modeFlag.name).head?.bind fun text => EscapeMode.ofOption? text false)
      (given.valuesOf fileFlag.name).head?
  | names => .names given.words
  | key => .key (given.words.head?.getD "")
  | default => .default (given.valuesOf fileFlag.name).head?

end Topic

/-- What the words of a command line come to. -/
inductive Request where
  | run (command : Command)
  | version
  /-- Help on the program or on one of its commands. -/
  | help (topic : Option Topic)
  | nothing
  | mistake (topic : Option Topic) (error : UsageError)
  deriving DecidableEq, Repr, Inhabited

namespace Request

/-- Reads the words after a command. -/
def ofTopic (topic : Topic) (words : List String) : Request :=
  match topic.form.read words with
  | .ok given => run (topic.command given)
  | .error .help => help (some topic)
  | .error (.usage error) => mistake (some topic) error

/-- The word that asks for help on a command. -/
def helpWord : String := "help"

/-- Reads the words after the one that asks for help. -/
def ofHelp : List String → Request
  | [] => help none
  | word :: rest =>
    match Topic.ofWord? word, rest with
    | some topic, [] => help (some topic)
    | some topic, other :: _ => mistake (some topic) (.unknownCommand other)
    | none, [] => if word = helpWord then help none else mistake none (.unknownCommand word)
    | none, other :: _ =>
      mistake none (.unknownCommand (if word = helpWord then other else word))

/-- Reads the first word after two dashes alone, where no command may stand. -/
def ofPlain : List String → Request
  | [] => nothing
  | word :: _ =>
    if (Topic.ofWord? word).isSome || word = helpWord then mistake none (.unexpected word)
    else mistake none (.unknownCommand word)

/-- Reads a word that begins with two dashes. -/
def ofLongOption (body : List Char) : Request :=
  match Form.splitOption body with
  | ("help", none) => help none
  | ("version", none) => version
  | ("help", some value) => mistake none (.unexpectedValue value "--help")
  | ("version", some value) => mistake none (.unexpectedValue value "--version")
  | (name, _) => mistake none (.unexpected ("--" ++ name))

/-- Reads the words of a command line. -/
def ofWords : List String → Request
  | [] => nothing
  | word :: rest =>
    match Topic.ofWord? word with
    | some topic => ofTopic topic rest
    | none =>
      if word = helpWord then ofHelp rest
      else
        match word.toList with
        | ['-', '-'] => ofPlain rest
        | '-' :: '-' :: body => ofLongOption body
        | '-' :: 'h' :: _ => help none
        | '-' :: 'V' :: _ => version
        | '-' :: c :: _ => mistake none (.unexpected (String.ofList ['-', c]))
        | _ => mistake none (.unknownCommand word)

end Request

end Phrasebook.CommandLine
