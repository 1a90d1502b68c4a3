/-
Directories: named files, and what a path leads to. A path that starts with a slash, or that goes up
from the top, leads out of the directory; there are directories there, and nothing else is found.
-/

namespace StackLisp.CommandLine

/-- Why a file cannot be read. -/
inductive FileError
  | notFound
  | notDirectory
  | isDirectory
  | notText
  | other (message : String)
deriving DecidableEq, Repr

def FileError.message : FileError → String
  | .notFound => "No such file or directory (os error 2)"
  | .notDirectory => "Not a directory (os error 20)"
  | .isDirectory => "Is a directory (os error 21)"
  | .notText => "stream did not contain valid UTF-8"
  | .other message => message

/-- The text that some bytes encode. -/
def textOf (contents : ByteArray) : Except FileError String :=
  match String.fromUTF8? contents with
  | some text => .ok text
  | none => .error .notText

/-- The steps of a path. -/
def steps (path : String) : List String := (path.toList.splitOn '/').map String.ofList

/-- Files by the steps of their paths. -/
structure Directory where
  files : List (List String × ByteArray)

namespace Directory

def ofFiles (files : List (String × ByteArray)) : Directory :=
  ⟨files.map fun f => (steps f.1, f.2)⟩

inductive Node
  | file (contents : ByteArray)
  | directory

/-- Where a walk stands: inside the directory, by the steps from its top, or outside of it. -/
inductive Place
  | inside (steps : List String)
  | outside
deriving DecidableEq, Repr

def Place.parent : Place → Place
  | .inside [] => .outside
  | .inside steps => .inside steps.dropLast
  | .outside => .outside

def Place.child? (name : String) : Place → Option Place
  | .inside steps => some (.inside (steps ++ [name]))
  | .outside => none

/-- What stands at a place. -/
def node? (d : Directory) : Place → Option Node
  | .outside => some .directory
  | .inside steps =>
    match d.files.lookup steps with
    | some contents => some (.file contents)
    | none =>
      if steps.isEmpty || d.files.any (fun f => steps.isPrefixOf f.1) then some .directory else none

/-- Takes some steps from a place. -/
def walk (d : Directory) (place : Place) : List String → Except FileError Node
  | [] =>
    match d.node? place with
    | some node => .ok node
    | none => .error .notFound
  | step :: rest =>
    match d.node? place with
    | none => .error .notFound
    | some (.file _) => .error .notDirectory
    | some .directory =>
      if step = "" || step = "." then d.walk place rest
      else if step = ".." then d.walk place.parent rest
      else
        match place.child? step with
        | some child => d.walk child rest
        | none => .error .notFound

def read (d : Directory) (path : String) : Except FileError String :=
  let start : Place := if path.startsWith "/" then .outside else .inside []
  match d.walk start (steps path) with
  | .error e => .error e
  | .ok .directory => .error .isDirectory
  | .ok (.file contents) => textOf contents

end Directory

end StackLisp.CommandLine
