import Phrasebook.Dictionary
import Phrasebook.Entity
import Phrasebook.Name
import Phrasebook.Text.Cut

/-!
# Templates

A template is a list of segments, literal texts and placeholders. `Template.source` writes it back as text, `Template.placeholders` lists the names it needs, and `Template.render` puts arguments into it. It is normal when its literals hold text, do not touch each other and nowhere hold the marker of a placeholder, and its placeholders have valid names; this shape is stated of the segments alone.

`Template.parse` reads a text: `{$name}` is a placeholder, and any other brace or dollar sign is plain text. The scan holds the literal text it has seen since the last placeholder and the byte position it has reached, and fails at the first marker that opens no placeholder.
-/

namespace Phrasebook

/-! ### Failures -/

/-- What is wrong with a placeholder. -/
inductive PlaceholderFault where
  | unterminated
  /-- The text between the marks is no name. -/
  | invalidName (name : String)
  /-- Literal text holds the marker and would be read back as a placeholder. -/
  | reservedSequence
  deriving DecidableEq, Repr, Inhabited

/-- The wording of a placeholder fault. -/
def PlaceholderFault.message : PlaceholderFault → String
  | unterminated => "unterminated placeholder"
  | invalidName name => "invalid placeholder name '" ++ name ++ "'"
  | reservedSequence => "literal text contains the placeholder marker '\x7b$'"

/-- Why a template could not be read, a message not be built, or a text not be formatted. -/
inductive FormatError where
  /-- The marker at this byte of the source opens no placeholder. -/
  | malformed (position : Nat) (fault : PlaceholderFault)
  | unbound (name : String)
  /-- A message with `expected` arguments was given `actual` values. -/
  | argumentCount (expected actual : Nat)
  deriving DecidableEq, Repr, Inhabited

/-- The wording of a formatting failure. Names are inserted as they are. -/
def FormatError.message : FormatError → String
  | malformed position fault =>
    "malformed placeholder at byte " ++ toString position ++ ": " ++ fault.message
  | unbound name => "placeholder '" ++ name ++ "' has no bound argument"
  | argumentCount expected actual =>
    "message expects " ++ toString expected ++ " argument(s) but " ++ toString actual ++
      " were supplied"

/-! ### Segments -/

/-- The byte at which characters first hold the marker of a placeholder. -/
def markerAt? : List Char → Option Nat
  | '{' :: '$' :: _ => some 0
  | c :: rest => (markerAt? rest).map (c.utf8Size + ·)
  | [] => none

inductive Segment where
  /-- Text that goes to the output through the escape mode. -/
  | literal (text : String)
  /-- A place for the argument with this name. -/
  | placeholder (name : String)
  deriving DecidableEq, Repr, Inhabited

namespace Segment

/-- The written form of a segment. -/
def chars : Segment → List Char
  | literal text => text.toList
  | placeholder name => '{' :: '$' :: name.toList ++ ['}']

def name? : Segment → Option String
  | literal _ => none
  | placeholder name => some name

/-- What a segment contributes to the output: literal text through `mode`, an argument exactly as it is. -/
def render (arguments : Arguments) (mode : EscapeMode) : Segment → Except FormatError String
  | literal text => .ok (mode.apply text)
  | placeholder name =>
    match arguments.get? name with
    | some value => .ok value
    | none => .error (.unbound name)

end Segment

structure Template where
  segments : List Segment
  deriving DecidableEq, Repr, Inhabited

namespace Template

/-- The characters of the written form. -/
def sourceChars (template : Template) : List Char :=
  template.segments.flatMap Segment.chars

/-- The template written back as text. -/
def source (template : Template) : String :=
  String.ofList template.sourceChars

/-- The placeholder names, each once, in the order of their first use. -/
def placeholders (template : Template) : List String :=
  (template.segments.filterMap Segment.name?).eraseDups

/-- Puts `arguments` into the template. The first placeholder with nothing bound to it is the failure, and then there is no output at all. -/
def render (template : Template) (arguments : Arguments) (mode : EscapeMode) :
    Except FormatError String := do
  let texts ← template.segments.mapM (Segment.render arguments mode)
  return String.join texts

end Template

/-! ### Normal templates -/

/-- Whether a segment has the form that text can be read into. -/
def Segment.isNormal : Segment → Bool
  | literal text => text != "" && (markerAt? text.toList).isNone
  | placeholder name => Name.isValid name.toList

/-- Whether no two neighbouring segments are both literal. -/
def Segment.areSeparate : List Segment → Bool
  | literal _ :: literal _ :: _ => false
  | _ :: rest => areSeparate rest
  | [] => true

/-- A template with normal segments, none of which could be merged with its neighbour. -/
def Template.Normal (template : Template) : Prop :=
  template.segments.all Segment.isNormal = true ∧
    Segment.areSeparate template.segments = true

instance (template : Template) : Decidable template.Normal :=
  inferInstanceAs (Decidable (_ ∧ _))

end Phrasebook

/-! ### Reading -/

namespace Phrasebook.Template

open Phrasebook.Text

/-- Puts literal text, held in reverse, before segments, unless it is empty. -/
def consLiteral (literal : List Char) (segments : List Segment) : List Segment :=
  if literal.isEmpty then segments else .literal (String.ofList literal.reverse) :: segments

/-- Reads segments from `text`, which starts at byte `position`, behind literal text held in reverse. -/
def scan (position : Nat) (literal : List Char) : List Char → Except FormatError (List Segment)
  | '{' :: '$' :: rest =>
    match _h : cut? '}' rest with
    | none => .error (.malformed position .unterminated)
    | some (name, after) =>
      if Name.isValid name then do
        let segments ← scan (position + byteLength name + 3) [] after
        return consLiteral literal (.placeholder (String.ofList name) :: segments)
      else .error (.malformed position (.invalidName (String.ofList name)))
  | c :: rest => scan (position + c.utf8Size) (c :: literal) rest
  | [] => .ok (consLiteral literal [])
termination_by text => text.length
decreasing_by
  · have := length_lt_of_cut? _h
    simp only [List.length_cons]
    omega
  · exact Nat.lt_succ_self _

def parse (source : String) : Except FormatError Template := do
  let segments ← scan 0 [] source.toList
  return ⟨segments⟩

end Phrasebook.Template

namespace Phrasebook

/-- Reads a template and puts `arguments` into it. -/
def format (template : String) (arguments : Arguments) (mode : EscapeMode) :
    Except FormatError String := do
  let template ← Template.parse template
  template.render arguments mode

end Phrasebook
