import Phrasebook.Settings.Environment

/-!
# Settings and their layers

What a deployment may choose without touching a call site: the namespace of the default service, and the escape mode for callers that choose none.

Each layer is a table of values that know where they come from. A later layer is laid over an earlier one key by key: tables under the same key are joined, and any other value takes the place of the one before it. The layers are, from the lowest to the highest: the built-in defaults, a file, the variables that begin with the stem, and the variable of the default namespace. Only the values that win are read, the default namespace first. A file that is asked for must be there; one that the environment names may be missing.
-/

namespace Phrasebook

structure Settings where
  defaultService : String := Service.builtinDefault
  escapeMode : EscapeMode := .preserve
  deriving DecidableEq, Repr, Inhabited

namespace Settings

/-- The settings where nothing is chosen. -/
def default : Settings := {}

/-- The key under which the default namespace is chosen. -/
def defaultServiceKey : String := "default_service"

/-- The key under which the escape mode is chosen. -/
def escapeModeKey : String := "escape_mode"

/-- An empty registry with the chosen default namespace. -/
def registry {S : Type} (settings : Settings) : Service.Registry S :=
  .withDefault settings.defaultService

end Settings

end Phrasebook

namespace Phrasebook.Settings

/-! ### Layers -/

/-- A value that knows which layer set it. -/
inductive Node where
  | leaf (origin : Origin) (value : Value)
  /-- A table, which belongs to the last layer that set it. -/
  | table (origin : Origin) (entries : List (String × Node))
  deriving Inhabited

/-- A table of values by key, in increasing order of the keys. -/
abbrev Layer := List (String × Node)

namespace Node

mutual

/-- A value as one layer sets it. -/
def ofValue (origin : Origin) : Value → Node
  | .table entries => .table origin (ofEntries origin entries)
  | .bool value => .leaf origin (.bool value)
  | .signed value => .leaf origin (.signed value)
  | .unsigned value => .leaf origin (.unsigned value)
  | .decimal value => .leaf origin (.decimal value)
  | .text content => .leaf origin (.text content)
  | .character c => .leaf origin (.character c)
  | .list items => .leaf origin (.list items)

/-- The entries of a table as one layer sets them. -/
def ofEntries (origin : Origin) : List (String × Value) → List (String × Node)
  | [] => []
  | (key, value) :: rest => (key, ofValue origin value) :: ofEntries origin rest

end

mutual

/-- Lays a value over an earlier one. -/
def overlay (older : Node) : Node → Node
  | .leaf origin value => .leaf origin value
  | .table origin entries =>
    match older with
    | .table _ before => .table origin (overlayEntries before entries)
    | .leaf _ _ => .table origin entries

/-- Lays entries over earlier ones, key by key. -/
def overlayEntries (older : List (String × Node)) : List (String × Node) → List (String × Node)
  | [] => older
  | (key, node) :: rest =>
    let joined := match Entries.lookup key older with
      | some before => overlay before node
      | none => node
    overlayEntries (Entries.insert key joined older) rest

end

/-- The entries with one value at the end of a path of keys. -/
def nest (origin : Origin) (node : Node) : List String → List (String × Node)
  | [] => []
  | [key] => [(key, node)]
  | key :: rest => [(key, .table origin (nest origin node rest))]

/-- How a diagnostic names a value of the wrong kind. -/
def found : Node → String
  | leaf _ value => value.found
  | table _ _ => (Value.table []).found

/-- The layer that set a value. -/
def origin : Node → Origin
  | leaf origin _ => origin
  | table origin _ => origin

end Node

namespace Layer

/-- Lays a layer over an earlier one. -/
def overlay (older newer : Layer) : Layer := Node.overlayEntries older newer

def defaults : Layer :=
  [(defaultServiceKey, .leaf .builtin (.text Settings.default.defaultService)),
   (escapeModeKey, .leaf .builtin (.text Settings.default.escapeMode.keyword))]

/-- What a settings file sets; the text may not be a document, or hold a table that none may hold. -/
def ofFile (path contents : String) : Except Fault Layer :=
  match (Toml.read? contents).bind Value.ofTomlEntries? with
  | some entries => .ok (Node.ofEntries (.file path) entries)
  | none => .error { problem := .message "not a TOML document", origin := some (.file path) }

/-- Lays what a variable sets over a layer, if its name begins with the stem. -/
def setVariable (layer : Layer) (entry : String × String) : Layer :=
  match keysOfVariable? entry.1 with
  | some keys =>
    layer.overlay (Node.nest .environment (Node.ofValue .environment (Notation.read entry.2)) keys)
  | none => layer

/-- What the variables set whose names begin with the stem. -/
def ofVariables (environment : Environment) : Layer := environment.entries.foldl setVariable []

/-- What the variable of the default namespace sets, taken as it is. -/
def ofDefaultService (environment : Environment) : Layer :=
  match environment.get? defaultServiceVariable with
  | some space => [(defaultServiceKey, .leaf .environment (.text space))]
  | none => []

end Layer

/-! ### Loading -/

/-- A value of the wrong kind under a path of keys. -/
def wrongKind (node : Node) (path : List String) (expected : String) : Fault :=
  { problem := .invalidType node.found expected, path, origin := some node.origin }

/-- A name that is not an escape mode, set by a layer under a path of keys. -/
def wrongMode (found : String) (path : List String) (origin : Origin) : Fault :=
  { problem := .unknownVariant found (EscapeMode.all.map EscapeMode.keyword), path,
    origin := some origin }

/-- Reads the default namespace, which is a text. -/
def readDefaultService : Node → Except Fault String
  | .leaf _ (.text space) => .ok space
  | .leaf _ (.character c) => .ok (String.singleton c)
  | node => .error (wrongKind node [defaultServiceKey] "a string")

/-- Reads the escape mode, which is a keyword. A table could only be a keyword with nothing under it, and there is no nothing, so the fault of a table is found at its first key, and lies with the layer that set what is under that key. -/
def readEscapeMode : Node → Except Fault EscapeMode
  | .leaf origin (.text keyword) =>
    match EscapeMode.ofKeyword? keyword with
    | some mode => .ok mode
    | none => .error (wrongMode keyword [escapeModeKey] origin)
  | .table _ ((key, node) :: _) =>
    match EscapeMode.ofKeyword? key with
    | some _ => .error (wrongKind node [escapeModeKey, key] "unit")
    | none => .error (wrongMode key [escapeModeKey, key] node.origin)
  | .table origin [] => .error (wrongKind (.table origin []) [escapeModeKey] "enum")
  | node => .error (wrongKind node [escapeModeKey] "enum EscapeMode")

/-- Reads a key with a default for when no layer sets it. -/
def readKey {α : Type} (layer : Layer) (key : String) (default : α)
    (read : Node → Except Fault α) : Except Fault α :=
  match Entries.lookup key layer with
  | some node => read node
  | none => .ok default

/-- Reads settings from the joined layers. -/
def ofLayer (layer : Layer) : Except Fault Settings := do
  let defaultService ←
    readKey layer defaultServiceKey default.defaultService readDefaultService
  let escapeMode ← readKey layer escapeModeKey default.escapeMode readEscapeMode
  return { defaultService, escapeMode }

/-- The joined layers, where the file sets what its layer holds. -/
def joined (environment : Environment) (file : Layer) : Layer :=
  ((Layer.defaults.overlay file).overlay (.ofVariables environment)).overlay
    (.ofDefaultService environment)

/-- The joined layers of an environment and a file, given by its path and what it holds. -/
def layers (environment : Environment) (file? : Option (String × String)) :
    Except Fault Layer := do
  let file ← match file? with
    | some (path, contents) => Layer.ofFile path contents
    | none => .ok []
  return joined environment file

/-- Loads settings, with the file at a path if one is asked for. -/
def loadFrom (disk : Disk) (environment : Environment) : Option String → Except Error Settings
  | none => ((layers environment none).bind ofLayer).mapError .settings
  | some path =>
    match disk path with
    | none => .error (.missingFile path)
    | some contents => ((layers environment (some (path, contents))).bind ofLayer).mapError .settings

/-- The path of the settings file that the environment names, if the file is there. -/
def discover (disk : Disk) (environment : Environment) : Option String :=
  (environment.get? pathVariable).filter fun path => (disk path).isSome

/-- Loads settings, with the file that the environment names if it is there. -/
def load (disk : Disk) (environment : Environment) : Except Error Settings :=
  loadFrom disk environment (discover disk environment)

end Phrasebook.Settings
