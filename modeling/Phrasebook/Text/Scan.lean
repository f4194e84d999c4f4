/-!
# Scanning

A scan reads a value off the front of a list of characters and leaves the rest, or fails. Scans are sequenced with `do`, and `p <|> q` goes back to where `p` started. Repetition is bounded by the text that is left: a step that takes at least one character never meets the bound.
-/

namespace Phrasebook.Text

/-- A reader of the front of a text. -/
abbrev Scan := StateT (List Char) Option

namespace Scan

variable {α : Type}

/-- The next character, which stays unread. -/
def peek : Scan (Option Char) := fun text => some (text.head?, text)

/-- Takes one character that satisfies `p`. -/
def satisfy (p : Char → Bool) : Scan Char
  | c :: rest => if p c then some (c, rest) else none
  | [] => none

def any : Scan Char := satisfy fun _ => true

def char (c : Char) : Scan Unit := do
  let _ ← satisfy (· == c)

/-- Takes these characters one after the other. -/
def chars : List Char → Scan Unit
  | [] => pure ()
  | c :: rest => do char c; chars rest

/-- Takes characters as long as they satisfy `p`. -/
def takeWhile (p : Char → Bool) : Scan (List Char) := fun text =>
  some (text.takeWhile p, text.dropWhile p)

/-- Takes one character or more, as long as they satisfy `p`. -/
def takeSome (p : Char → Bool) : Scan (List Char) := do
  let taken ← takeWhile p
  guard !taken.isEmpty
  return taken

/-- Takes exactly `count` characters, all of which satisfy `p`. -/
def exactly (count : Nat) (p : Char → Bool) : Scan (List Char) := do
  let text ← get
  let taken := text.take count
  guard (taken.length = count && taken.all p)
  set (text.drop count)
  return taken

/-- Drops characters as long as they satisfy `p`. -/
def skipWhile (p : Char → Bool) : Scan Unit := fun text => some ((), text.dropWhile p)

/-- Tries a scan, and takes nothing where it fails. -/
def optional (scan : Scan α) : Scan (Option α) := fun text =>
  match scan text with
  | some (value, rest) => some (some value, rest)
  | none => some (none, text)

/-- The characters that a scan takes. -/
def taken (scan : Scan Unit) : Scan (List Char) := do
  let before ← get
  scan
  let after ← get
  return before.take (before.length - after.length)

/-- Succeeds only where the text ends. -/
def atEnd : Scan Unit
  | [] => some ((), [])
  | _ :: _ => none

/-- Collects what `step` reads while it asks to go on, at most `bound` times. -/
def collectWithin (step : Scan (α × Bool)) : Nat → Scan (List α)
  | 0 => failure
  | bound + 1 => do
    let (value, goesOn) ← step
    if goesOn then
      let values ← collectWithin step bound
      return value :: values
    else return [value]

/-- Collects what `step` reads while it asks to go on. -/
def collect (step : Scan (α × Bool)) : Scan (List α) := do
  let text ← get
  collectWithin step (text.length + 1)

def readAll (scan : Scan α) (text : List Char) : Option α :=
  match scan text with
  | some (value, []) => some value
  | _ => none

end Scan

end Phrasebook.Text
