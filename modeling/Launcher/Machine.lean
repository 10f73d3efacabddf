import Launcher.Catalog.Builtin
import Launcher.Files.Tree

/-!
# The machine

What the launcher finds around it: the home directory and the current one, the environment variable
that names a catalog, the platform, the width of the terminal, the files, and where the
configuration is stored. Directory and file of the configuration are those set last, unless one or
more overrides are in force; then they are those of the innermost one. The directory and the file
set last are kept beside each other; `Machine.InStep` says that they belong together.

An `Action` works on a machine. One that fails keeps what it has done to the machine before.

Modelled are `set_config_dir`, `config_dir_context` and the functions that say which directory and
which file are in force. Overrides belong to a flow of control; a machine has one of these.
-/

namespace Launcher

/-- The surroundings of the launcher. -/
structure Machine where
  home : Path
  work : Path
  catalogVariable : Option Text
  platform : Platform
  /-- The columns of the terminal that results are shown on. -/
  terminalWidth : Nat
  files : Tree
  /-- The directory of the stored configuration, as set last. -/
  configDirectory : Path
  /-- The file of the stored configuration, as set last. -/
  configPath : Path
  overrides : List Path

/-- Something done on a machine, with a result or a fault. -/
abbrev Action (α : Type) := ExceptT Fault (StateM Machine) α

/-- What an action gives on a machine, and the machine after it. -/
def Action.on {α : Type} (act : Action α) (machine : Machine) : Except Fault α × Machine :=
  act.run.run machine

namespace Machine

/-- The directory that holds the configuration of a home directory. -/
def defaultDirectory (home : Path) : Path := home.child ".lodestar"

/-- The name of the file of a configuration. -/
def configName : Text := "config.json"

/-- The file of the configuration that a directory stores. -/
def fileIn (directory : Path) : Path := directory.child configName

/-- The machine with another directory of the stored configuration, and the file in it. -/
def storingIn (machine : Machine) (directory : Path) : Machine :=
  { machine with configDirectory := directory, configPath := fileIn directory }

/-- The machine as a process finds it when it starts: its configuration is in the home directory. -/
def restarted (machine : Machine) : Machine :=
  { machine with overrides := [] }.storingIn (defaultDirectory machine.home)

/-- A machine with its configuration in the home directory. -/
def fresh (home work : Path) (catalogVariable : Option Text) (platform : Platform)
    (terminalWidth : Nat) (files : Tree) : Machine where
  home := home
  work := work
  catalogVariable := catalogVariable
  platform := platform
  terminalWidth := terminalWidth
  files := files
  configDirectory := defaultDirectory home
  configPath := fileIn (defaultDirectory home)
  overrides := []

/-- The file of the stored configuration is the one in its directory. -/
def InStep (machine : Machine) : Prop := machine.configPath = fileIn machine.configDirectory

/-- The directory in force for the stored configuration. -/
def effectiveDirectory (machine : Machine) : Path :=
  machine.overrides.head?.getD machine.configDirectory

/-- The file in force for the stored configuration. -/
def configFile (machine : Machine) : Path :=
  match machine.overrides.head? with
  | some directory => fileIn directory
  | none => machine.configPath

/-- The path that a value gives, with the home directory for a leading tilde. -/
def expand (machine : Machine) (given : Value) : Except Fault Path := do
  (← Path.ofValue given).expandHome machine.home

/-- The directory that a value gives; it need not be there, but nothing else may be. -/
def directory (machine : Machine) (given : Value) : Except Fault Path := do
  let path ← (← machine.expand given).resolve machine.work
  if Tree.isLongPath path then .error (.nameTooLong path.text)
  match ← machine.files.look path with
  | some (.file _) => .error (.notDirectory path.text)
  | _ => .ok path

/-- Something stands at the end of a path. -/
def has (machine : Machine) (path : Path) : Except Fault Bool :=
  if Tree.isLongPath path && path.fault?.isNone then .error (.nameTooLong path.text)
  else machine.files.has (path.below machine.work)

/-- The text of a file. -/
def read (machine : Machine) (path : Path) : Except Fault String :=
  machine.files.read (path.below machine.work)

/-- Makes the directory in force for the stored configuration. -/
def makeDirectory : Action Unit := ExceptT.mk fun machine =>
  let (made, grown) := machine.files.makeDirectories machine.effectiveDirectory
  (made, { machine with files := grown })

/-- Puts a string into the file of the stored configuration. -/
def putFile (s : String) : Action Unit := do
  let machine ← get
  let written ← machine.files.write machine.configFile s
  set { machine with files := written }

/-- Writes the file of the stored configuration in its directory. The file is emptied before it is
written, and stays empty when the text holds half of a pair. -/
def writeFile (t : Text) : Action Unit :=
  match Text.encode t with
  | .ok s => putFile s
  | .error stuck => do
    putFile ""
    throw (.halves stuck)

/-- Sets the directory of the stored configuration; without one it is the one in the home directory
again. -/
def setDirectory (given : Value) : Action Unit := do
  let machine ← get
  if given.isNull then set (machine.storingIn (defaultDirectory machine.home))
  else
    let path ← machine.directory given
    set (machine.storingIn path)

/-- Does something with another directory in force, and goes back to the one before afterwards,
also after a fault. -/
def within {α : Type} (given : Value) (act : Action α) : Action α :=
  if given.isNull then act
  else ExceptT.mk fun machine =>
    match machine.directory given with
    | .error fault => (.error fault, machine)
    | .ok path =>
      let (result, after) := Action.on act { machine with overrides := path :: machine.overrides }
      (result, { after with overrides := machine.overrides })

end Machine

end Launcher
