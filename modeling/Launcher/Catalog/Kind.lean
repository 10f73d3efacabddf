import Launcher.Text

/-!
# Kinds of entries

What an entry of the catalog stands for; each kind has a name in records.

Modelled is `EntryKind`.
-/

namespace Launcher

/-- What an entry stands for. -/
inductive Kind where
  | application
  | file
  | directory
  | command
  | plugin
  | action
deriving DecidableEq, Repr, Inhabited

namespace Kind

/-- The kinds in the order in which messages list them. -/
def all : List Kind := [.application, .file, .directory, .command, .plugin, .action]

/-- The name of a kind in records. -/
def name : Kind → Text
  | .application => "application"
  | .file => "file"
  | .directory => "directory"
  | .command => "command"
  | .plugin => "plugin"
  | .action => "action"

/-- The kind with a name. -/
def ofName? (name : Text) : Option Kind := all.find? (·.name == name)

/-- A kind is found again by its name. -/
theorem ofName?_name (kind : Kind) : ofName? kind.name = some kind := by
  cases kind <;> decide

end Kind

end Launcher
