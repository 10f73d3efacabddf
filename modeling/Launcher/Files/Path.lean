import Launcher.Fault
import Launcher.Text.Split

/-!
# Paths

A path is a root and the names below it. Writing out a path read from a text leaves out empty names
and single dots, and keeps double dots; two slashes at the start are a root of their own, any other
number of them means the plain root.

In the file system a name is a row of octets. Names that are no text of characters have octets, too,
as long as their halves stand for octets; other names, and those that hold the character with number
zero, are names of no file.

Paths are those of the file systems that the launcher is tested on, with slashes and case kept.
-/

namespace Launcher

open Launcher.Text

/-- Where a path starts. -/
inductive Root where
  | here
  | plain
  | double
deriving DecidableEq, Repr, Inhabited

/-- The text of a root. -/
def Root.text : Root → Text
  | .here => ""
  | .plain => "/"
  | .double => "//"

/-- A path: its root and the names below it. -/
structure Path where
  root : Root
  parts : List Text
deriving DecidableEq, Repr, Inhabited

namespace Path

/-- The root that a text starts with. -/
def rootOf : Text → Root
  | .char '/' :: .char '/' :: .char '/' :: _ => .plain
  | .char '/' :: .char '/' :: _ => .double
  | .char '/' :: _ => .plain
  | _ => .here

/-- The path that a text writes. -/
def ofText (t : Text) : Path :=
  ⟨rootOf t, (splitAt (.char '/') t).filter fun name => name ≠ [] && name ≠ "."⟩

/-- The path that a value writes, which must be a text. -/
def ofValue (given : Value) : Except Fault Path :=
  match given with
  | .text t => .ok (ofText t)
  | _ => .error .wrongType

/-- The text of a path; the empty path is a dot. -/
def text (path : Path) : Text :=
  if path.root = .here ∧ path.parts = [] then "."
  else path.root.text ++ List.intercalate "/" path.parts

/-- The path of a name below a path. -/
def child (path : Path) (name : Text) : Path := ⟨path.root, path.parts ++ [name]⟩

/-- The path seen from a directory: itself if it has a root, otherwise below the directory. -/
def below (path directory : Path) : Path :=
  if path.root = .here then ⟨directory.root, directory.parts ++ path.parts⟩ else path

/-- The path with a leading tilde replaced by the home directory. -/
def expandHome (path home : Path) : Except Fault Path :=
  match path.root, path.parts with
  | .here, first :: rest =>
    if first = "~" then .ok ⟨home.root, home.parts ++ rest⟩
    else if first.head? = some (.char '~') then .error .unknownUser
    else .ok path
  | _, _ => .ok path

/-- The names left when each double dot takes back the name before it; `done` is backwards. -/
def collapse (done : List Text) : List Text → List Text
  | [] => done.reverse
  | name :: rest => if name = ".." then collapse done.tail rest else collapse (name :: done) rest

/-- The octets of a name in the file system. -/
def octetsOf (name : Text) : List UInt8 := name.flatMap fun c => (nameOctets? c).getD []

/-- Why a name is that of no file, if it is none. -/
def nameFault? (name : Text) : Option Fault :=
  if name.any fun c => (nameOctets? c).isNone then some .halfInPath
  else if name.contains ↑(Char.ofNat 0) then some .nullInPath
  else none

/-- The fault of the first name in the path that is that of no file. -/
def fault? (path : Path) : Option Fault := path.parts.findSome? nameFault?

/-- The path from the plain root, seen from a directory, without double dots. -/
def resolve (path directory : Path) : Except Fault Path :=
  let whole := path.below directory
  match whole.fault? with
  | some fault => .error fault
  | none => .ok ⟨.plain, collapse [] whole.parts⟩

/-- The path seen from a base above it, if it is below the base. -/
def relativeTo? (path base : Path) : Option Path :=
  if base.root = path.root then
    (dropStart? base.parts path.parts).map fun parts => ⟨.here, parts⟩
  else none

/-- A path as messages show it: from the base if it is below it, otherwise in full. -/
def shownFrom (path : Path) (base? : Option Path) : Text :=
  match base?.bind path.relativeTo? with
  | some relative => "./" ++ relative.text
  | none => path.text

end Path

end Launcher
