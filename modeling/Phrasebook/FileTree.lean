import Phrasebook.Text.Cut

/-!
# File trees

A file tree is a directory laid out in memory, seen from its top. A path names a regular file in it when every part before the last leads into a directory; parts that are empty or a single dot stay where they are, and two dots go up. Nothing is known above the top, nor of paths that start at the root of the system. A path that takes too many bytes names nothing; a file is read by its full path, which begins with that of the top, and of one whose full path takes too many bytes nothing can be read.
-/

namespace Phrasebook

open Phrasebook.Text

/-- What the regular file at a path holds, where there is one. -/
abbrev Disk := String → Option String

/-- The parts of a path between its slashes. -/
def pathParts (path : String) : List String :=
  (split '/' path.toList).map String.ofList

/-- Whether a part of a path stays where it is. -/
def isIdlePart (part : String) : Bool := part == "" || part == "."

/-- A path without the parts that stay where they are; one from the root of the system is kept as it is. -/
def tidyPath (path : String) : String :=
  if path.toList.head? = some '/' then path
  else "/".intercalate ((pathParts path).filter fun part => !isIdlePart part)

/-- A directory with all that lies below it. Places are lists of names from the top. -/
structure FileTree where
  folders : List (List String) := []
  /-- The regular files, the latest contents first. -/
  files : List (List String × String) := []
  deriving DecidableEq, Repr, Inhabited

namespace FileTree

/-- The parts of a path that lead somewhere. -/
def place (path : String) : List String :=
  (pathParts path).filter fun part => !isIdlePart part

def addFolder (tree : FileTree) (path : String) : FileTree :=
  { tree with folders := place path :: tree.folders }

def addFile (tree : FileTree) (path contents : String) : FileTree :=
  { tree with files := (place path, contents) :: tree.files }

/-- The tree with these directories and files. -/
def ofLists (folders : List String) (files : List (String × String)) : FileTree :=
  let tree := folders.foldl addFolder {}
  files.foldl (fun tree file => tree.addFile file.1 file.2) tree

/-- What the file at a place holds. -/
def file? (tree : FileTree) (place : List String) : Option String :=
  (tree.files.find? fun file => file.1 == place).map (·.2)

/-- Whether there is a directory at a place: the top, a directory that was made, or one in which another or a file lies. -/
def isFolder (tree : FileTree) (place : List String) : Bool :=
  place.isEmpty || tree.folders.any place.isPrefixOf ||
    tree.files.any fun file => place.isPrefixOf file.1 && place != file.1

/-- Follows parts of a path from a directory, whose place is held in reverse. -/
def follow (tree : FileTree) (here : List String) : List String → Option String
  | [] => none
  | part :: rest =>
    if isIdlePart part then follow tree here rest
    else if part == ".." then
      match here with
      | [] => none
      | _ :: above => follow tree above rest
    else
      let there := part :: here
      if tree.isFolder there.reverse then follow tree there rest
      else if rest.isEmpty then tree.file? there.reverse
      else none

/-- The most bytes that a path may take. -/
def longestPath : Nat := 4095

/-- The bytes that the full path of the top takes, with the slash after it. -/
def topLength : Nat := 16

/-- What the regular file at a path holds, or nothing if it is there but cannot be read. -/
def disk (tree : FileTree) : Disk := fun path =>
  let length := byteLength path.toList
  if path.toList.head? = some '/' ∨ longestPath < length then none
  else
    (tree.follow [] (pathParts path)).map fun contents =>
      if longestPath < topLength + length then "" else contents

end FileTree

end Phrasebook
