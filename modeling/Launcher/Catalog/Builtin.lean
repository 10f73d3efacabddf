import Launcher.Catalog.Entry

/-!
# Built-in entries

The commands of the system that every catalog can carry, with the command line of each platform as
their action. A platform that is not known gets the command lines of Linux.

Modelled are `builtin_entries` and the two tables it reads. Names that begin with `linux` and names
without a table get the same command lines, so they are one `Platform`.
-/

namespace Launcher

/-- A platform with command lines of its own. -/
inductive Platform where
  | darwin
  | linux
  | windows
deriving DecidableEq, Repr

/-- The platform with a name; every unknown name means Linux. -/
def Platform.named (name : Text) : Platform :=
  if name = "darwin" then .darwin else if name = "win32" then .windows else .linux

/-- The platform that a value names; whatever counts as false means Linux. -/
def Platform.ofValue (given : Value) : Except Fault Platform :=
  if !given.isTrue then .ok .linux
  else match given with
    | .text name => .ok (named name)
    | _ => .error .noSuchMember

namespace Builtin

/-- A command of the system. -/
inductive Command where
  | terminal
  | logout
  | shutdown
  | restart
  | sleep
deriving DecidableEq, Repr

/-- The commands in the order of the catalog. -/
def Command.all : List Command := [.terminal, .logout, .shutdown, .restart, .sleep]

/-- The name of a command within its id. -/
def Command.name : Command → Text
  | .terminal => "terminal"
  | .logout => "logout"
  | .shutdown => "shutdown"
  | .restart => "restart"
  | .sleep => "sleep"

/-- The title of a command. -/
def Command.title : Command → Text
  | .terminal => "Terminal"
  | .logout => "Logout"
  | .shutdown => "Shutdown"
  | .restart => "Restart"
  | .sleep => "Sleep"

/-- What a command does. -/
def Command.description : Command → Text
  | .terminal => "Open terminal"
  | .logout => "Logout current user"
  | .shutdown => "Shutdown computer"
  | .restart => "Restart computer"
  | .sleep => "Put computer to sleep"

/-- The words that find a command besides its title. -/
def Command.keywords : Command → List Text
  | .terminal => ["shell", "console", "cli"]
  | .logout => ["sign out", "log off"]
  | .shutdown => ["power off", "turn off"]
  | .restart => ["reboot"]
  | .sleep => ["suspend"]

/-- What is run for a command on a platform. -/
def Command.line : Command → Platform → Text
  | .terminal, .darwin => "open -a Terminal"
  | .logout, .darwin => "osascript -e 'tell application \"System Events\" to log out'"
  | .shutdown, .darwin => "sudo shutdown -h now"
  | .restart, .darwin => "sudo shutdown -r now"
  | .sleep, .darwin => "pmset sleepnow"
  | .terminal, .linux => "gnome-terminal"
  | .logout, .linux => "gnome-session-quit --logout"
  | .shutdown, .linux => "shutdown -h now"
  | .restart, .linux => "shutdown -r now"
  | .sleep, .linux => "systemctl suspend"
  | .terminal, .windows => "cmd"
  | .logout, .windows => "shutdown /l"
  | .shutdown, .windows => "shutdown /s /t 0"
  | .restart, .windows => "shutdown /r /t 0"
  | .sleep, .windows => "rundll32.exe powrprof.dll,SetSuspendState 0,1,0"

/-- The entry of a command on a platform. -/
def Command.entry (platform : Platform) (command : Command) : Entry where
  id := "cmd_" ++ command.name
  title := command.title
  subtitle := some command.description
  keywords := command.keywords
  action := .object [("command", .text (command.line platform))]
  baseWeight := 0.8
  kind := .command

end Builtin

/-- The built-in entries of a platform. -/
def builtinEntries (platform : Platform) : List Entry :=
  Builtin.Command.all.map (Builtin.Command.entry platform)

end Launcher
