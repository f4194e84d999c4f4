/-!
# Text without its controls

Text for a terminal may hold controls: single ones, and sequences that an escape opens and that have an end of their own. `shown` is what remains of a text where there is no terminal. Blanks that are controls remain too, where a terminal would obey them; one inside a sequence suspends it, and the next control takes the sequence up again.
-/

namespace Phrasebook.Text

inductive Reading where
  | plain
  /-- A sequence of which only the escape has come. -/
  | escape
  /-- A short sequence, which a digit, a letter or most marks end. -/
  | short
  /-- A sequence with numbers, which a letter ends. -/
  | numbered
  /-- A command in words, which a bell ends. -/
  | command
  /-- The head of a text for a device. -/
  | device
  /-- The numbers in the head of a text for a device. -/
  | deviceNumbers
  /-- The end of the head of a text for a device. -/
  | deviceEnd
  /-- A text that is not for the screen. -/
  | hidden
  deriving DecidableEq, Repr, Inhabited

/-- The byte that ends a hidden text, even inside a character. -/
def terminator : UInt8 := 0x9c

/-- A blank that is a control. -/
def isControlBlank (c : Char) : Bool :=
  c == '\t' || c == '\n' || c == '\x0c' || c == '\r'

/-- Whether a character lies between two others. -/
def isBetween (first last c : Char) : Bool := first ≤ c && c ≤ last

namespace Reading

def shows (reading : Reading) (c : Char) : Bool :=
  match reading with
  | plain => isControlBlank c || (' ' ≤ c && c != '\x7f')
  | escape | short | numbered => isControlBlank c
  | command | device | deviceNumbers | deviceEnd | hidden => false

/-- What an escape and the character after it open. -/
def opened (c : Char) : Reading :=
  if c == '[' then numbered
  else if c == ']' then command
  else if c == 'P' then device
  else if c == 'X' || c == '^' || c == '_' then hidden
  else if isBetween ' ' '/' c then short
  else if isBetween '0' '~' c then plain
  else escape

/-- What is read after a character. Wherever it comes, an escape opens a sequence and a cancelling control ends one. -/
def next (reading : Reading) (c : Char) : Reading :=
  if c == '\x1b' then escape
  else if c == '\x18' || c == '\x1a' then plain
  else
    match reading with
    | plain => plain
    | escape => opened c
    | short => if isBetween '0' '~' c then plain else short
    | numbered => if isBetween '@' '~' c then plain else numbered
    | command => if c == '\x07' then plain else command
    | device =>
      if isBetween ' ' '/' c then deviceEnd
      else if isBetween '0' '?' c then deviceNumbers
      else if isBetween '@' '~' c then hidden
      else device
    | deviceNumbers =>
      if isBetween ' ' '/' c then deviceEnd
      else if isBetween '<' '~' c then hidden
      else deviceNumbers
    | deviceEnd => if isBetween '0' '~' c then hidden else deviceEnd
    | hidden => if (String.utf8EncodeChar c).contains terminator then plain else hidden

end Reading

/-- What remains of a text, where `reading` is what is read, or is taken up again at the next control while `showing`. A character beyond ASCII ends what was suspended. -/
def shownFrom (reading : Reading) (showing : Bool) : List Char → List Char
  | [] => []
  | c :: rest =>
    if showing && Reading.plain.shows c then
      c :: shownFrom (if '\x7f' < c then .plain else reading) true rest
    else if reading.shows c then c :: shownFrom (reading.next c) true rest
    else shownFrom (reading.next c) false rest

/-- What remains of a text where there is no terminal. -/
def shown (text : String) : String :=
  String.ofList (shownFrom .plain true text.toList)

/-- A text that a terminal emphasizes. -/
def emphasized (text : String) : String := "\x1b[1m" ++ text ++ "\x1b[0m"

end Phrasebook.Text
