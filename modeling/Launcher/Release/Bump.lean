import Launcher.Machine
import Launcher.Release.Assignment
import Launcher.Release.Template
import Launcher.Release.Version

/-!
# Setting the version of a release

The version of a release stands in two files, each of which assigns it once as far as this is
concerned: the first assignment is replaced, and everything else stays. The project file may be
missing; the package file may not. They are written one after the other.

Modelled is the whole script that sets the version. The functions for the two files differ in the
key and in what they say when there is none; they are one `setVersion`.
-/

namespace Launcher.Release

open Launcher.Text

/-- The key under which a file assigns the version. -/
def key : VersionFile → List Char
  | .package => "__version__".toList
  | .project => "version".toList

/-- The path of a file below the directory of the release. -/
def pathBelow (root : Path) : VersionFile → Path
  | .package => (root.child "lodestar").child "__init__.py"
  | .project => root.child "pyproject.toml"

/-- The text of a file with the version set; `path` is where it stands. -/
def setVersion (file : VersionFile) (path : Text) (version text : List Char) :
    Except Fault (List Char) :=
  let template := written (key file) version
  match Located.find? (key file) text with
  | none => do
    let _ ← expand [] template
    .error (.versionMissing file path)
  | some located => (expand located.assignment template).map located.replace

/-- Sets the version in one file. -/
def bumpFile (root : Path) (version : String) (file : VersionFile) : Action Unit := do
  let machine ← get
  let path := pathBelow root file
  let text ← machine.files.readChars path
  let bumped ← setVersion file path.text version.toList text
  let files ← machine.files.write path (String.ofList bumped)
  set { machine with files }

/-- Sets the version of the release in a directory and gives the files that were written. -/
def bump (root : Path) (version : String) : Action (List Path) := do
  bumpFile root version .package
  let there ← ((← get).files.has (pathBelow root .project) : Except Fault Bool)
  if there then
    bumpFile root version .project
    pure [pathBelow root .package, pathBelow root .project]
  else pure [pathBelow root .package]

/-- How the command is used. -/
def usage : Text :=
  "Bump Lodestar versions in one command.\n\nUsage:\n" ++
    "  python scripts/bump_version.py 0.2.0\n  python scripts/bump_version.py v0.2.0\n"

/-- What the command prints, and its exit status. -/
structure Report where
  output : Text
  status : Nat

/-- The command: one version, or its usage. -/
def command (root : Path) (args : List Text) : Action Report := do
  match args with
  | [given] =>
    if given = "-h" || given = "--help" then pure ⟨usage, 2⟩
    else
      let version ← (normalize given : Except Fault String)
      let paths ← bump root version
      let told : Text := "Updated version to " ++ version ++ "\n"
      let lines : List Text := paths.map fun path => "- " ++ path.text ++ "\n"
      pure ⟨told ++ lines.flatten, 0⟩
  | _ => pure ⟨usage, 2⟩

end Launcher.Release
