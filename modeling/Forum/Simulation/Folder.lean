import Forum.Settings.Variables
import Forum.Text.Cut

/-!
# A working folder

The files that a program finds which starts in a folder that holds nothing but files. A path is followed name by name,
from the folder itself or, if a slash is in front, from the root. Of what lies outside of the folder only that is known
which is the same everywhere: the way up, the folders of the root, and the file that is always empty.
-/

namespace Forum.Simulation

open Text

/-- The files of a folder by their names. -/
abbrev Folder := List (String × List UInt8)

/-- Where a path has led to. -/
inductive Place where
  /-- The working folder. -/
  | here
  | root
  /-- The folder of devices. -/
  | devices
  /-- A folder of which nothing is known. -/
  | elsewhere
  | file (octets : List UInt8)
deriving DecidableEq, Repr

namespace Place

/-- The folders that every root has. -/
def standing : List String :=
  ["bin", "etc", "home", "lib", "mnt", "opt", "proc", "root", "run", "sbin", "srv", "sys", "tmp", "usr", "var"]

/-- The folder around a place. -/
def up : Place → Option Place
  | here | elsewhere => some elsewhere
  | root | devices => some root
  | file _ => none

/-- What a folder has under a name. -/
def named? (folder : Folder) (place : Place) (name : String) : Option Place :=
  match place with
  | here => (folder.lookup name).map file
  | root => if name = "dev" then some devices else if name ∈ standing then some elsewhere else none
  | devices => if name = "null" then some (file []) else none
  | elsewhere | file _ => none

/-- Follows one name of a path. A file is the end of its path, also where no name follows the slash. -/
def follow (folder : Folder) (place : Place) (name : String) : Option Place :=
  match place with
  | file _ => none
  | _ => if name = "" ∨ name = "." then some place else if name = ".." then place.up else named? folder place name

end Place

namespace Folder

/-- Follows a path. -/
def follow (folder : Folder) (path : String) : Option Place :=
  match path.toList with
  | [] => none
  | c :: cs =>
    let start := if c = '/' then .root else .here
    (pieces '/' (c :: cs)).foldlM (fun place name => place.follow folder (String.ofList name)) start

/-- What is found under a path. -/
def files (folder : Folder) : Files := fun path =>
  (folder.follow path).map fun place =>
    match place with
    | .file octets => .ok octets
    | _ => .error Files.isFolder

end Folder

end Forum.Simulation
