import Launcher.Machine
import Launcher.Config.Payload
import Launcher.Json.Writer
import Launcher.Value.Conversion

/-!
# The stored configuration

The configuration is stored as a document in the directory in force. Reading it is more lenient than
a payload: numbers are converted and then put into range, and any value counts as true or false. A
setting is changed by reading the configuration, changing it and writing all of it.

Modelled are `load_config`, `save_config`, the setters from `set_prefix_bonus` to
`set_include_builtins`, and `apply_config_updates`. The setters do the same to different settings,
and are one `store`; what has been changed is told by the updates themselves (`changes`).
-/

namespace Launcher.Config

/-- The number under the key of a setting, or its standard value. -/
def storedWeight (fields : Fields) (setting : Setting) : Except Fault Value :=
  match fields.get? setting.key with
  | none => .ok (standard.value setting)
  | some given => given.toFloat.map .float

/-- The whole number under the key of a setting, not below a least one, or its standard value. -/
def storedCount (fields : Fields) (least : Int) (setting : Setting) : Except Fault Value :=
  match fields.get? setting.key with
  | none => .ok (standard.value setting)
  | some given => given.toInt.map fun n => .int (max n least)

/-- The configuration that the fields of a stored document give. -/
def ofStored (fields : Fields) : Except Fault Config := do
  let prefixBonus ← storedWeight fields .prefixBonus
  let titleMultiplier ← storedWeight fields .titleMultiplier
  let keywordMultiplier ← storedWeight fields .keywordMultiplier
  let limit ← storedCount fields 1 .limit
  let pageSize ← storedCount fields 1 .pageSize
  let debounceMs ← storedCount fields 0 .debounceMs
  let path := fields.getD Setting.catalogPath.key
  let builtins := ((fields.get? Setting.includeBuiltins.key).map Value.isTrue).getD true
  .ok { prefixBonus, titleMultiplier, keywordMultiplier, limit, pageSize, debounceMs,
        catalogPath := if path.isTrue then path else .null, includeBuiltins := .bool builtins }

/-- The configuration in a stored text. -/
def ofStoredText (t : Text) : Except Fault Config :=
  match Json.readDocument t with
  | .ok (.object fields) => ofStored fields
  | .ok _ => .error .noSuchMember
  | .error (.tooManyDigits count) => .error (.tooManyDigits (some count))
  | .error fault => .error (.document fault)

/-- The settings that are stored as they are, in their order. -/
def storedAsGiven : List Setting :=
  [.prefixBonus, .titleMultiplier, .keywordMultiplier, .limit, .pageSize, .debounceMs]

/-- The document that a configuration is stored as; a path that is not set is left out. -/
def toStored (config : Config) : Value :=
  .object <|
    storedAsGiven.map (fun setting => (setting.key, config.value setting)) ++
      [(Setting.includeBuiltins.key, .bool config.includeBuiltins.isTrue)] ++
      (if config.catalogPath.isTrue then [(Setting.catalogPath.key, config.catalogPath)] else [])

/-- The text that a configuration is stored as, if it can be written. -/
def toStoredText (config : Config) : Except Fault Text :=
  if Json.isWritable config.toStored then .ok (Json.write .indented config.toStored)
  else .error (.tooManyDigits none)

/-- The configuration in force on a machine. -/
def stored (machine : Machine) : Except Fault Config := do
  if ← machine.has machine.configFile then ofStoredText (← machine.read machine.configFile)
  else .ok standard

/-- Reads the configuration in force. -/
def load : Action Config := do
  stored (← get)

/-- Writes a configuration; the directory is made if it is not there, also for one that cannot be
written. -/
def save (config : Config) : Action Unit := do
  Machine.makeDirectory
  Machine.writeFile (← config.toStoredText)

/-- The configuration with a new value for one setting, where any value counts as true or false. -/
def assign (config : Config) (setting : Setting) (given : Value) : Except Fault Config :=
  match setting with
  | .includeBuiltins => .ok (config.put setting (.bool given.isTrue))
  | _ => config.change setting given

/-- Changes one setting of the stored configuration. -/
def store (setting : Setting) (given : Value) : Action Unit := do
  let config ← load
  let changed ← config.assign setting given
  save changed

/-- What a request to change the stored configuration asks for; null asks for nothing. -/
structure Updates where
  prefixBonus : Value := .null
  titleMultiplier : Value := .null
  keywordMultiplier : Value := .null
  limit : Value := .null
  pageSize : Value := .null
  debounceMs : Value := .null
  catalogPath : Value := .null
  clearCatalog : Bool := false
  includeBuiltins : Value := .null

namespace Updates

/-- The settings asked for before the catalog is cleared, in order. -/
def assignments (updates : Updates) : List (Setting × Value) :=
  [(.prefixBonus, updates.prefixBonus), (.titleMultiplier, updates.titleMultiplier),
    (.keywordMultiplier, updates.keywordMultiplier), (.limit, updates.limit),
    (.pageSize, updates.pageSize), (.debounceMs, updates.debounceMs),
    (.catalogPath, updates.catalogPath)]

/-- Every change in the order in which it is made. -/
def changes (updates : Updates) : List (Setting × Value) :=
  updates.assignments.filter (fun change => !change.2.isNull) ++
    (if updates.clearCatalog then [(.catalogPath, .null)] else []) ++
    (if updates.includeBuiltins.isNull then []
      else [(.includeBuiltins, updates.includeBuiltins)])

/-- Nothing is asked for. -/
def isEmpty (updates : Updates) : Bool := updates.changes.isEmpty

end Updates

/-- Makes changes to the stored configuration one after the other. -/
def storeAll : List (Setting × Value) → Action Unit
  | [] => pure ()
  | (setting, given) :: rest => do
    store setting given
    storeAll rest

/-- Changes the stored configuration as asked for. -/
def update (updates : Updates) : Action Unit := storeAll updates.changes

end Launcher.Config
