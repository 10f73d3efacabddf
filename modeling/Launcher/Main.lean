import Launcher.CommandLine.Run

/-!
# The command line

The program takes a picture of the files that a command may look at, runs the command on it, and
writes what the command has changed. The files are those that the words of the command line, the
environment and the stored configurations name. Files whose names are no text of characters are left
out of the picture, and the terminal is as wide as the environment says.
-/

namespace Launcher.Program

open Launcher.CommandLine

/-- What stands at a path in the file system. -/
def nodeAt? (path : Path) : IO (Option Node) := do
  let .ok name := Text.encode path.text | pure none
  try
    let place ← IO.FS.realPath name
    if ← place.isDir then pure (some .directory)
    else
      let bytes ← IO.FS.readBinFile name
      pure (some (.file (.octets bytes.toList)))
  catch _ => pure none

/-- The tree with everything that stands on the way along a path. -/
def picture (tree : Tree) (path : Path) : IO Tree := do
  let mut grown := tree
  for n in List.range path.parts.length do
    let place : Path := ⟨.plain, Path.collapse [] (path.parts.take (n + 1))⟩
    if let some node ← nodeAt? place then
      grown := grown.put (place.parts.map Path.octetsOf) node
  pure grown

/-- The texts within a word that may name a path. -/
def namesIn (word : Text) : List Text :=
  [word, word.drop 2, (word.dropWhile (· != .char '=')).drop 1]

/-- The machine with a picture of the paths that texts name, and of the configurations in them. -/
def pictureAll (machine : Machine) (names : List Text) : IO Machine := do
  let mut files := machine.files
  for name in names do
    if let .ok path := machine.expand (.text name) then
      let place := path.below machine.work
      files ← picture files place
      files ← picture files (Machine.fileIn place)
  pure { machine with files }

/-- The catalog that a file names if it is a configuration. -/
def catalogName? (node : Node) : Option Text :=
  match node with
  | .directory => none
  | .file content =>
    match content.chars with
    | .error _ => none
    | .ok cs =>
      match Config.ofStoredText (Text.ofChars cs) with
      | .ok { catalogPath := .text name, .. } => some name
      | _ => none

/-- The name of a place in the file system. -/
def nameOf (place : Location) : String :=
  place.foldl (fun name octets =>
    name ++ "/" ++ (String.fromUTF8? ⟨octets.toArray⟩).getD "") ""

/-- Writes what a command has put into the tree. -/
def writeChanges (before after : Tree) : IO Unit := do
  let added := (after.nodes.take (after.nodes.length - before.nodes.length)).reverse
  for (place, node) in added do
    match node with
    | .directory => IO.FS.createDirAll (nameOf place)
    | .file (.text s) => IO.FS.writeFile (nameOf place) s
    | .file (.octets _) => pure ()

/-- The machine that the program runs on. -/
def surroundings (words : List Text) : IO Machine := do
  let home := Text.ofString ((← IO.getEnv "HOME").getD "/")
  let work := Text.ofString (← IO.currentDir).toString
  let catalog := (← IO.getEnv "LODESTAR_CATALOG").map Text.ofString
  let columns := ((← IO.getEnv "COLUMNS").bind String.toNat?).getD 80
  let bare := Machine.fresh (Path.ofText home) (Path.ofText work) catalog .linux columns Tree.empty
  let directories := [bare.configDirectory.text, home, work]
  let seen ← pictureAll bare (directories ++ words.flatMap namesIn ++ catalog.toList)
  pictureAll seen (seen.files.nodes.filterMap fun (_, node) => catalogName? node)

/-- The characters of a message; halves of pairs are left out. -/
def plain (t : Text) : String :=
  String.ofList (t.filterMap fun
    | .char c => some c
    | .half _ => none)

/-- Reports how a command has ended, and gives the exit status. -/
def finish : Ending → IO UInt32
  | .exit status => pure (UInt32.ofNat status)
  | .usage reason => do
    IO.eprintln ("Usage error" ++ ((reason.map fun fault => ": " ++ plain fault.message).getD ""))
    pure 2
  | .fault fault => do
    IO.eprintln ("Error: " ++ plain fault.message)
    pure 1

end Launcher.Program

/-- Runs a command line. -/
def main (words : List String) : IO UInt32 := do
  let words := words.map Launcher.Text.ofString
  let machine ← Launcher.Program.surroundings words
  let (report, after) := Launcher.CommandLine.run machine words
  for warning in report.warnings do
    IO.eprintln (Launcher.Program.plain warning.message)
  IO.print report.output
  Launcher.Program.writeChanges machine.files after.files
  Launcher.Program.finish report.ending
