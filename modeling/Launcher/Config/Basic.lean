import Launcher.Config.Setting
import Launcher.Search.Scoring
import Launcher.Value

/-!
# Configurations

What can be set of the launcher: the weights of the three rules of scoring, how many results are
shown and how many rows a page has, how long typing must rest before it is searched, the catalog
file, and whether the built-in entries are part of the catalog.

A configuration holds whatever its settings were given; a value is looked at when it is used. Those
that come from a payload or from a stored document have passed a check or a conversion.

Modelled are `Config` and `weights_from_config`. Configurations are values, so none has to be copied
before it is changed.
-/

namespace Launcher

/-- The settings of a launcher. -/
structure Config where
  prefixBonus : Value := .float Weights.standard.prefixBonus
  titleMultiplier : Value := .float Weights.standard.titleMultiplier
  keywordMultiplier : Value := .float Weights.standard.keywordMultiplier
  limit : Value := .int 8
  pageSize : Value := .int 8
  debounceMs : Value := .int 0
  catalogPath : Value := .null
  includeBuiltins : Value := .bool true
deriving Inhabited

namespace Config

/-- The configuration of a launcher that sets nothing. -/
def standard : Config := {}

/-- The weights that the configuration sets. -/
def weights (config : Config) : Weights Value where
  prefixBonus := config.prefixBonus
  titleMultiplier := config.titleMultiplier
  keywordMultiplier := config.keywordMultiplier

/-- The value of a setting. -/
def value (config : Config) : Setting → Value
  | .prefixBonus => config.prefixBonus
  | .titleMultiplier => config.titleMultiplier
  | .keywordMultiplier => config.keywordMultiplier
  | .limit => config.limit
  | .pageSize => config.pageSize
  | .debounceMs => config.debounceMs
  | .catalogPath => config.catalogPath
  | .includeBuiltins => config.includeBuiltins

/-- The configuration with another value for a setting. -/
def put (setting : Setting) (given : Value) (config : Config) : Config :=
  match setting with
  | .prefixBonus => { config with prefixBonus := given }
  | .titleMultiplier => { config with titleMultiplier := given }
  | .keywordMultiplier => { config with keywordMultiplier := given }
  | .limit => { config with limit := given }
  | .pageSize => { config with pageSize := given }
  | .debounceMs => { config with debounceMs := given }
  | .catalogPath => { config with catalogPath := given }
  | .includeBuiltins => { config with includeBuiltins := given }

/-- A setting has the value put. -/
@[simp] theorem value_put_self (setting : Setting) (given : Value) (config : Config) :
    (config.put setting given).value setting = given := by
  cases setting <;> rfl

/-- Putting one setting leaves every other one as it was. -/
theorem value_put_of_ne {setting other : Setting} (h : setting ≠ other) (given : Value)
    (config : Config) : (config.put setting given).value other = config.value other := by
  cases setting <;> cases other <;> simp_all [put, value]

/-- The configuration that gives each of some settings a value, by key; none if a key names no
setting. -/
def ofFields? (fields : Fields) : Option Config :=
  fields.foldlM (fun config kv => (Setting.ofKey? kv.1).map fun setting =>
    config.put setting kv.2) standard

end Config

end Launcher
