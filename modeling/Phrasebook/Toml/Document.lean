import Phrasebook.Dictionary
import Phrasebook.Toml.Scalar

/-!
# TOML documents

A document is read line by line into open tables, which are closed at its end. While it is read, what may be added to a table depends on what opened it. A table is opened by its own header, by the header of a table inside it, or by a dotted key. A header may open a table that only the headers of its subtables had implied; a dotted key may add to tables that no header opened, and the one it ends in must have been opened by a dotted key. No key is set twice.

`read?` accepts exactly the documents of TOML 1.0 that nest no deeper than `depthLimit`.
-/

namespace Phrasebook.Toml

open Phrasebook.Text

/-! ### Open tables -/

/-- What opened a table. -/
inductive Opening where
  /-- Its own header, or braces. -/
  | header
  /-- The header of a table inside it. -/
  | implied
  /-- A dotted key. -/
  | dotted
  deriving DecidableEq, Repr, Inhabited

/-- What a key of an open table holds. -/
inductive Item where
  /-- A finished value. -/
  | value (value : Value)
  /-- A table. -/
  | table (opening : Opening) (entries : List (String × Item))
  /-- An array of tables, the latest first. -/
  | tables (elements : List (List (String × Item)))
  deriving Inhabited

/-- A key of an open table, with what it holds. -/
abbrev Entry := String × Item

namespace Item

mutual

/-- The value that an item comes to when nothing is added any more. -/
def close : Item → Value
  | value v => v
  | table _ entries => .table (closeEntries entries)
  | tables elements => .array (closeElements elements).reverse

/-- The entries of a table that nothing is added to any more. -/
def closeEntries : List (String × Item) → List (String × Value)
  | [] => []
  | (key, item) :: rest => (key, item.close) :: closeEntries rest

/-- The tables of an array that nothing is added to any more, in the order they are held in. -/
def closeElements : List (List (String × Item)) → List Value
  | [] => []
  | entries :: rest => .table (closeEntries entries) :: closeElements rest

end

/-- Changes the table at the end of `path`. Tables that are missing on the way are opened as `opening`; an array of tables stands for its latest table. A dotted key does not pass through a table that has a header. -/
def change (opening : Opening) (f : Opening → List Entry → Option (List Entry)) :
    List String → Opening → List Entry → Option (List Entry)
  | [], here, entries => f here entries
  | key :: path, _, entries =>
    match Entries.lookup key entries with
    | none => do
      let inner ← change opening f path opening []
      return Entries.insert key (.table opening inner) entries
    | some (.value _) => none
    | some (.tables []) => none
    | some (.tables (latest :: before)) => do
      let inner ← change opening f path .header latest
      return Entries.insert key (.tables (inner :: before)) entries
    | some (.table there inner) =>
      if opening = .dotted ∧ there = .header then none
      else do
        let inner ← change opening f path there inner
        return Entries.insert key (.table there inner) entries

/-- Sets a key that is not set yet. -/
def setNew (key : String) (item : Item) (entries : List Entry) : Option (List Entry) :=
  match Entries.lookup key entries with
  | none => some (Entries.insert key item entries)
  | some _ => none

/-- Sets a key below a table, where `path` are the parts of the key before the last. -/
def assign (path : List String) (key : String) (value : Value) (entries : List Entry) :
    Option (List Entry) :=
  change .dotted
    (fun here inner =>
      if path.isEmpty ∨ here = .dotted then setNew key (.value value) inner else none)
    path .header entries

/-- Opens a table by its header. -/
def openTable (path : List String) (key : String) (root : List Entry) : Option (List Entry) :=
  change .implied
    (fun _ inner =>
      match Entries.lookup key inner with
      | none => some (Entries.insert key (.table .header []) inner)
      | some (.table .implied entries) => some (Entries.insert key (.table .header entries) inner)
      | some _ => none)
    path .header root

/-- Opens the next table of an array by its header. -/
def openElement (path : List String) (key : String) (root : List Entry) : Option (List Entry) :=
  change .implied
    (fun _ inner =>
      match Entries.lookup key inner with
      | none => some (Entries.insert key (.tables [[]]) inner)
      | some (.tables elements) => some (Entries.insert key (.tables ([] :: elements)) inner)
      | some _ => none)
    path .header root

/-- Changes the table that a header at `path` opened. -/
def inTable (path : List String) (f : List Entry → Option (List Entry)) (root : List Entry) :
    Option (List Entry) :=
  change .implied (fun _ entries => f entries) path .header root

end Item

/-! ### Reading -/

/-- Splits the last part off a key. -/
def splitKey : List String → Scan (List String × String)
  | [] => failure
  | [key] => pure ([], key)
  | part :: rest => do
    let (path, key) ← splitKey rest
    return (part :: path, key)

/-- Reads a key, an equals sign and a value. -/
def assignment (value : Scan Value) : Scan (List String × Value) := do
  let parts ← key
  Scan.char '='
  blanks
  let v ← value
  return (parts, v)

/-- Reads the rest of an array whose bracket has been read. -/
def arrayItems (value : Scan Value) : Scan (List Value) := do
  gap
  match ← Scan.optional (Scan.char ']') with
  | some () => return []
  | none => Scan.collect do
    gap
    let v ← value
    gap
    match ← Scan.optional (Scan.char ',') with
    | none => do
      Scan.char ']'
      return (v, false)
    | some () => do
      gap
      match ← Scan.optional (Scan.char ']') with
      | some () => return (v, false)
      | none => return (v, true)

/-- Reads the assignments of an inline table whose brace has been read. -/
def inlineAssignments (value : Scan Value) : Scan (List (List String × Value)) := do
  blanks
  match ← Scan.optional (Scan.char '}') with
  | some () => return []
  | none => Scan.collect do
    let pair ← assignment value
    blanks
    match ← Scan.optional (Scan.char ',') with
    | some () => return (pair, true)
    | none => do
      Scan.char '}'
      return (pair, false)

/-- Makes the assignments of a table one after the other. -/
def assignAll : List (List String × Value) → List Entry → Scan (List Entry)
  | [], entries => pure entries
  | (parts, value) :: rest, entries => do
    let (path, key) ← splitKey parts
    match Item.assign path key value entries with
    | some entries => assignAll rest entries
    | none => failure

/-- Reads a value that holds no other. -/
def simpleValue : Scan Value := do
  match ← get with
  | '"' :: _ | '\'' :: _ => do
    let text ← string
    return .text text
  | 't' :: 'r' :: 'u' :: 'e' :: rest => do set rest; return .bool true
  | 'f' :: 'a' :: 'l' :: 's' :: 'e' :: rest => do set rest; return .bool false
  | _ => moment <|> number

/-- Reads a value that nests at most so many arrays and inline tables. -/
def value : Nat → Scan Value
  | 0 => simpleValue
  | depth + 1 => do
    match ← get with
    | '[' :: rest => do
      set rest
      let items ← arrayItems (value depth)
      return .array items
    | '{' :: rest => do
      set rest
      let pairs ← inlineAssignments (value depth)
      let entries ← assignAll pairs []
      return .table (Item.closeEntries entries)
    | _ => simpleValue

/-- What has been read of a document. -/
structure Progress where
  root : List Entry := []
  /-- The table that the latest header opened. -/
  here : List String := []

/-- Goes on with changed tables, if the change was allowed. -/
def Progress.with (progress : Progress) (root : Option (List Entry)) : Scan Progress :=
  match root with
  | some root => pure { progress with root }
  | none => failure

/-- Reads a header or an assignment and the end of its line. -/
def line (progress : Progress) : Scan Progress := do
  match ← get with
  | '[' :: '[' :: rest => do
    set rest
    let parts ← key
    Scan.chars [']', ']']
    lineEnd
    let (path, key) ← splitKey parts
    { progress with here := parts }.with (Item.openElement path key progress.root)
  | '[' :: rest => do
    set rest
    let parts ← key
    Scan.char ']'
    lineEnd
    let (path, key) ← splitKey parts
    { progress with here := parts }.with (Item.openTable path key progress.root)
  | _ => do
    let (parts, v) ← assignment (value (depthLimit - 1))
    lineEnd
    let (path, key) ← splitKey parts
    progress.with (Item.inTable progress.here (Item.assign path key v) progress.root)

/-- Reads lines to the end of the text, at most `bound` of them. -/
def lines : Nat → Progress → Scan Progress
  | 0, _ => failure
  | bound + 1, progress => do
    blanks
    match ← Scan.peek with
    | none => return progress
    | some '#' | some '\n' | some '\r' => do
      lineEnd
      lines bound progress
    | some _ => do
      let progress ← line progress
      lines bound progress

/-- A text without the mark that may precede it to tell its encoding. -/
def dropMark : List Char → List Char
  | '\ufeff' :: rest => rest
  | text => text

/-- Reads a document; there is none where the text is not one. -/
def read? (source : String) : Option (List (String × Value)) :=
  let text := dropMark source.toList
  (Scan.readAll (lines (text.length + 1) {}) text).map fun progress =>
    Item.closeEntries progress.root

end Phrasebook.Toml
