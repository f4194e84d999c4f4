import Phrasebook.CommandLine.Run

/-!
# The program

The outer layer: it finds out the environment and the files that a command may read, runs the command, and prints what it comes to.
-/

namespace Phrasebook

/-- The text of a file, if it can be read. -/
def readText? (path : String) : IO (Option String) := do
  try
    let text ← IO.FS.readFile path
    return some text
  catch _ => return none

def currentVariables : IO (List (String × String)) := do
  let text ← readText? "/proc/self/environ"
  let entries := Text.split '\x00' (text.getD "").toList
  return entries.filterMap fun entry =>
    (Text.cut? '=' entry).map fun (name, value) => (String.ofList name, String.ofList value)

end Phrasebook

open Phrasebook in
def main (words : List String) : IO UInt32 := do
  let environment := Settings.Environment.ofList (← currentVariables)
  let request := CommandLine.Request.ofWords words
  let files ← (request.paths environment).filterMapM fun path => do
    let text ← readText? path
    return text.map fun text => (path, text)
  let outcome := request.answer (fun path => Entries.lookup path files) environment
  IO.print outcome.output
  IO.eprint outcome.diagnostics
  return outcome.code.toUInt32
