import Launcher.Text

/-!
# The settings by name

A stored configuration is an object with one key for each setting.

The order of `Setting.all` is the one in which a payload is looked at.
-/

namespace Launcher

/-- One of the settings of the launcher. -/
inductive Setting where
  | prefixBonus
  | titleMultiplier
  | keywordMultiplier
  | limit
  | pageSize
  | debounceMs
  | catalogPath
  | includeBuiltins
deriving DecidableEq, Repr

namespace Setting

/-- The settings in the order in which they are read and applied. -/
def all : List Setting :=
  [.prefixBonus, .titleMultiplier, .keywordMultiplier, .limit, .pageSize, .debounceMs,
    .catalogPath, .includeBuiltins]

/-- The key of a setting. -/
def key : Setting → Text
  | .prefixBonus => "prefix_bonus"
  | .titleMultiplier => "title_multiplier"
  | .keywordMultiplier => "keyword_multiplier"
  | .limit => "limit"
  | .pageSize => "page_size"
  | .debounceMs => "debounce_ms"
  | .catalogPath => "catalog_path"
  | .includeBuiltins => "include_builtins"

/-- The setting with a key. -/
def ofKey? (key : Text) : Option Setting := all.find? (·.key == key)

end Setting

end Launcher
