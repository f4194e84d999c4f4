import Phrasebook.Template

/-!
# Messages and their builders

A message is a template together with the arguments it declares. Values are bound by position, the template finds them by name; a translation replaces the template and may use the declared names in any order and number, but no others.

A builder declares arguments, which gives a slot for each, and collects literal text and placeholders. Literal text that follows literal text is joined to it, however it is cut into pieces. `build` refuses the first segment that could not be read back: literal text with the marker of a placeholder, or a placeholder whose slot another builder declared.
-/

namespace Phrasebook

/-- A template with its declared arguments. -/
structure Message where
  id : String
  description : Option String
  /-- The declared names, in the order in which values are given. -/
  arguments : List String
  template : Template
  deriving DecidableEq, Repr, Inhabited

namespace Message

/-- Binds values to the declared names by position. -/
def bind (message : Message) (values : List String) : Except FormatError Arguments :=
  if values.length = message.arguments.length then
    .ok (Arguments.zip message.arguments values)
  else .error (.argumentCount message.arguments.length values.length)

/-- Binds values by position and renders the template. -/
def format (message : Message) (values : List String) (mode : EscapeMode) :
    Except FormatError String := do
  let arguments ← message.bind values
  message.template.render arguments mode

/-- Replaces the template by a translated one. -/
def translate (message : Message) (source : String) : Except FormatError Message := do
  let template ← Template.parse source
  match template.placeholders.find? fun name => !message.arguments.contains name with
  | some name => .error (.unbound name)
  | none => .ok { message with template }

end Message

/-! ### Building -/

/-- The handle of a declared argument. -/
structure Slot where
  name : String
  deriving DecidableEq, Repr, Inhabited

structure Builder where
  id : String
  description : Option String := none
  namer : Namer := {}
  arguments : List String := []
  /-- The segments collected so far, the latest first. -/
  collected : List Segment := []
  deriving DecidableEq, Repr, Inhabited

namespace Builder

/-- A builder that has collected nothing. -/
def new (id : String) : Builder := { id }

def describe (builder : Builder) (text : String) : Builder :=
  { builder with description := some text }

def declare (builder : Builder) (natural : String) : Slot × Builder :=
  let (name, namer) := builder.namer.assign natural
  (⟨name⟩, { builder with namer, arguments := builder.arguments ++ [name] })

/-- Appends literal text to segments that are held the latest first. -/
def appendText (text : String) : List Segment → List Segment
  | .literal before :: rest => .literal (before ++ text) :: rest
  | segments => if text.isEmpty then segments else .literal text :: segments

def text (builder : Builder) (literal : String) : Builder :=
  { builder with collected := appendText literal builder.collected }

def placeholder (builder : Builder) (slot : Slot) : Builder :=
  { builder with collected := .placeholder slot.name :: builder.collected }

def template (builder : Builder) : Template := ⟨builder.collected.reverse⟩

/-- The fault of the first segment that could not be read back, where the segments start at byte `position` of the written form. -/
def firstFault? (namer : Namer) (position : Nat) : List Segment → Option FormatError
  | [] => none
  | .literal text :: rest =>
    match markerAt? text.toList with
    | some index => some (.malformed (position + index) .reservedSequence)
    | none => firstFault? namer (position + text.utf8ByteSize) rest
  | .placeholder name :: rest =>
    if namer.isAssigned name then firstFault? namer (position + name.utf8ByteSize + 3) rest
    else some (.unbound name)

/-- Finishes the message; the builder can go on. -/
def build (builder : Builder) : Except FormatError Message :=
  match firstFault? builder.namer 0 builder.template.segments with
  | some fault => .error fault
  | none =>
    .ok {
      id := builder.id
      description := builder.description
      arguments := builder.arguments
      template := builder.template }

end Builder

end Phrasebook
