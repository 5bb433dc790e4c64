import RemoteSearch.Text.Pieces

set_option autoImplicit false

/-! # Paths in a file system

A path is a list of steps that are walked one by one. A place is the list of names that lead to it
from the root, which is the empty list. A path that does not start at the root starts in the working
directory, of which only the depth is known. What stands at a place is told by a file system; where
a path leads is a matter of that and of its steps alone.
-/

namespace RemoteSearch.Path

/-! ## Places -/

/-- A name in a directory, or one of the steps that stay or go up. -/
abbrev Name : Type := List Char

/-- The steps of a path. -/
def steps (path : String) : List Name := Text.pieces (· = '/') path.toList

/-- True of a path that starts at the root. -/
def isAbsolute (path : String) : Bool := path.toList.head? = some '/'

/-- The place that the names in a path lead to from the root. -/
def place (path : String) : List Name := (steps path).filter (· ≠ [])

/-- A directory or file: one whose place is known, or a directory that is so many steps below the
root. -/
inductive Here
  | known (place : List Name)
  | below (depth : Nat)
deriving DecidableEq

/-- The directory above. The root is above itself. -/
def Here.above : Here → Here
  | known place => known place.dropLast
  | below (depth + 2) => below (depth + 1)
  | below _ => known []

/-! ## File systems -/

/-- What stands at a place. A socket is the one at which a server listens. -/
inductive Kind
  | directory
  | file
  | socket
deriving DecidableEq

/-- A file system, by what stands at its places. Without anything given, there is nothing in it. -/
structure FileSystem where
  kind? : List Name → Option Kind := fun _ => none
  /-- What the link at a place stands for, if there is one. -/
  link? : List Name → Option Here := fun _ => none
  /-- The depth of the working directory. -/
  workingDepth : Nat := 0

/-- Where a path leads. -/
inductive Goal
  | reached (kind : Kind)
  | throughFile
  | missing
deriving DecidableEq

namespace FileSystem

variable (files : FileSystem)

/-- The file system with a socket at the end of a path, and with the directories that lead there. -/
def serving (socket : String) : FileSystem :=
  if isAbsolute socket then
    { files with
      kind? := fun there =>
        if there = place socket then some .socket
        else if there.isPrefixOf (place socket) then some .directory
        else files.kind? there }
  else files

/-- What a place stands for: what the link there does, or itself. -/
def followed (there : List Name) : Here := (files.link? there).getD (.known there)

/-- What there is. A directory of which only the depth is known is one. -/
def standing? : Here → Option Kind
  | .below _ => some .directory
  | .known there => files.kind? there

/-- Where steps lead from a directory. -/
def walk : Here → List Name → Goal
  | _, [] => .reached .directory
  | here, step :: rest =>
    if step = [] ∨ step = ['.'] then walk here rest
    else if step = ['.', '.'] then walk here.above rest
    else
      match here with
      | .below _ => .missing
      | .known place =>
        let there := files.followed (place ++ [step])
        match files.standing? there with
        | none => .missing
        | some .directory => walk there rest
        | some kind => if rest = [] then .reached kind else .throughFile

/-- Where a path leads. -/
def goal (path : String) : Goal :=
  files.walk (if isAbsolute path then .known [] else .below files.workingDepth) (steps path)

end FileSystem

end RemoteSearch.Path
