import Launcher.Files.Path

/-!
# Trees of files

The files that the launcher reads and writes stand in a tree of directories. `Tree.walk` follows a
path from name to name; every name but the last must be that of a directory, also before a double
dot. A file holds text, or octets that may or may not be text.

Names are kept as octets. They are limited to 255 octets and paths to 4095. A longer one is a fault
of its own, but only when it is looked up: behind something that is missing or no directory it does
no harm. A path with a name that is that of no file leads nowhere.

What is written is read back as written, but for the line ends, which are read as line feeds.

There are no links, no permissions and no devices in a tree, and nobody else changes it.
-/

namespace Launcher

open Launcher.Text

/-- What a file holds. -/
inductive Content where
  | text (s : String)
  | octets (bytes : List UInt8)
deriving Inhabited

/-- The characters that a file holds, with every line end as a line feed. -/
def Content.chars : Content → Except Utf8Fault (List Char)
  | .text s => .ok (unifyLineEnds s.toList)
  | .octets bytes => (decodeUtf8 bytes).map unifyLineEnds

/-- What stands at a place of the tree. -/
inductive Node where
  | directory
  | file (content : Content)
deriving Inhabited

/-- A place in the tree: the octets of the names from the root down. -/
abbrev Location := List (List UInt8)

/-- The place that a path without double dots leads to. -/
def Path.location (path : Path) : Location := path.parts.map Path.octetsOf

/-- Directories and files by place; the root is always a directory. -/
structure Tree where
  nodes : List (Location × Node)
deriving Inhabited

/-- Why a walk along a path ends early. -/
inductive WalkFault where
  | missing
  | throughFile
  | nameTooLong
deriving DecidableEq, Repr

namespace Tree

/-- The tree without files. -/
def empty : Tree := ⟨[]⟩

/-- What stands at a place. -/
def get? (tree : Tree) (place : Location) : Option Node :=
  if place = [] then some .directory else (tree.nodes.find? (·.1 == place)).map (·.2)

/-- The tree with a node at a place. -/
def put (place : Location) (node : Node) (tree : Tree) : Tree :=
  ⟨(place, node) :: tree.nodes⟩

/-- The name is longer than any name of a file. -/
def isLongName (name : Text) : Bool := 255 < (Path.octetsOf name).length

/-- The path is longer than any path of a file. -/
def isLongPath (path : Path) : Bool := 4095 < (Path.octetsOf path.text).length

/-- The place that a walk along names from a place leads to. -/
def walk (tree : Tree) (place : Location) : List Text → Except WalkFault Location
  | [] => .ok place
  | name :: rest =>
    match tree.get? place with
    | some .directory =>
      if isLongName name then .error .nameTooLong
      else tree.walk (if name = ".." then place.dropLast else place ++ [Path.octetsOf name]) rest
    | some (.file _) => .error .throughFile
    | none => .error .missing

/-- What stands at the end of a path from the root, if anything does. -/
def look (tree : Tree) (path : Path) : Except Fault (Option Node) :=
  if path.fault?.isSome then .ok none
  else match tree.walk [] path.parts with
    | .ok place => .ok (tree.get? place)
    | .error .nameTooLong => .error (.nameTooLong path.text)
    | .error _ => .ok none

/-- Something stands at the end of a path. -/
def has (tree : Tree) (path : Path) : Except Fault Bool := (tree.look path).map Option.isSome

/-- The fault of a walk along a path. -/
def walkFault (path : Path) : WalkFault → Fault
  | .missing => .fileMissing path.text
  | .throughFile => .throughFile path.text
  | .nameTooLong => .nameTooLong path.text

/-- The place that a path from the root leads to. -/
def placeOf (tree : Tree) (path : Path) : Except Fault Location :=
  match path.fault? with
  | some fault => .error fault
  | none =>
    match tree.walk [] path.parts with
    | .ok place => .ok place
    | .error fault => .error (walkFault path fault)

/-- The characters of the file at the end of a path. -/
def readChars (tree : Tree) (path : Path) : Except Fault (List Char) :=
  match tree.placeOf path with
  | .error fault => .error fault
  | .ok place =>
    match tree.get? place with
    | none => .error (.fileMissing path.text)
    | some .directory => .error (.isDirectory path.text)
    | some (.file content) =>
      match content.chars with
      | .ok cs => .ok cs
      | .error fault => .error (.octets fault)

/-- The text of the file at the end of a path. -/
def read (tree : Tree) (path : Path) : Except Fault String :=
  (tree.readChars path).map String.ofList

/-- The tree after a text has been written to the file at the end of a path. -/
def write (tree : Tree) (path : Path) (s : String) : Except Fault Tree :=
  match tree.placeOf path with
  | .error fault => .error fault
  | .ok place =>
    match tree.get? place, tree.get? place.dropLast with
    | some .directory, _ => .error (.isDirectory path.text)
    | some (.file _), _ => .ok (tree.put place (.file (.text s)))
    | none, some .directory => .ok (tree.put place (.file (.text s)))
    | none, some (.file _) => .error (.throughFile path.text)
    | none, none => .error (.fileMissing path.text)

/-- Makes directories at `place` and below it along names, as far as nothing is in the way. -/
def directoriesFrom (tree : Tree) (place : Location) : List Text → Except WalkFault Unit × Tree
  | [] => (.ok (), tree)
  | name :: rest =>
    let next := place ++ [Path.octetsOf name]
    if isLongName name then (.error .nameTooLong, tree)
    else match tree.get? next with
      | some .directory => tree.directoriesFrom next rest
      | some (.file _) => (.error .throughFile, tree)
      | none => (tree.put next .directory).directoriesFrom next rest

/-- Makes a directory at the end of a path without double dots, and every directory above it. -/
def makeDirectories (tree : Tree) (path : Path) : Except Fault Unit × Tree :=
  match path.fault? with
  | some fault => (.error fault, tree)
  | none =>
    match tree.directoriesFrom [] path.parts with
    | (.ok (), grown) => (.ok (), grown)
    | (.error fault, grown) =>
      if (grown.get? path.location).isSome then (.error (.fileExists path.text), grown)
      else (.error (walkFault path fault), grown)

end Tree

end Launcher
