import Launcher.Fault
import Launcher.Config.Basic
import Launcher.Json.Reader
import Launcher.Text.Lowercase

/-!
# Changing a configuration

A payload is an object, or a document that holds one; it gives new values to the settings whose keys
it has and leaves all others alone. Null, and a blank text for a number, give a setting the value it
has by itself. Numbers may be given as texts; a whole number may also be given as a double without
places; a truth value may be given as a word or as 0 or 1. What a setting cannot have is refused.

Modelled are `config_from_json`, `_coerce_config_payload` and `_apply_config_payload`. Weights have
one reading in common and so have counts, apart from the least one; `readSetting` says which reading
a setting has.
-/

namespace Launcher.Config

open Launcher.Text Launcher.Decimal

/-- A number that can be a weight: not negative, and a number at all. -/
def checkedWeight (setting : Setting) (x : Float) : Except Fault Value :=
  if x < 0.0 || x.isNaN then .error (.configValue setting) else .ok (.float x)

/-- The weight that a value gives. -/
def readWeight (setting : Setting) : Value → Except Fault Value
  | .null => .ok (standard.value setting)
  | .int n =>
    match ofInt? n with
    | some x => checkedWeight setting x
    | none => .error .numberTooLarge
  | .float x => checkedWeight setting x
  | .text s =>
    let s := trim s
    if s.isEmpty then .ok (standard.value setting)
    else match readFloat? s with
      | some x => checkedWeight setting x
      | none => .error (.configValue setting)
  | _ => .error (.configValue setting)

/-- A whole number that can be a count: not below a least one. -/
def checkedCount (least : Int) (setting : Setting) (n : Int) : Except Fault Value :=
  if n < least then .error (.configValue setting) else .ok (.int n)

/-- The count that a value gives, which must not be below a least one. -/
def readCount (least : Int) (setting : Setting) : Value → Except Fault Value
  | .null => .ok (standard.value setting)
  | .int n => checkedCount least setting n
  | .float x =>
    match wholeNumber? x with
    | some n => checkedCount least setting n
    | none => .error (.configValue setting)
  | .text s =>
    let s := trim s
    if s.isEmpty then .ok (standard.value setting)
    else match readInt s with
      | .ok n => checkedCount least setting n
      | .error _ => .error (.configValue setting)
  | _ => .error (.configValue setting)

/-- The path that a value gives; null and a blank text give none. -/
def readPath (setting : Setting) : Value → Except Fault Value
  | .null => .ok .null
  | .text t =>
    let t := trim t
    .ok (if t.isEmpty then .null else .text t)
  | _ => .error (.configValue setting)

/-- The words for true. -/
def trueWords : List Text := ["true", "1", "yes", "on"]

/-- The words for false. -/
def falseWords : List Text := ["false", "0", "no", "off"]

/-- The truth value that a value gives. -/
def readFlag (setting : Setting) : Value → Except Fault Value
  | .bool b => .ok (.bool b)
  | .int n =>
    if n = 0 then .ok (.bool false)
    else if n = 1 then .ok (.bool true)
    else .error (.configValue setting)
  | .text t =>
    let word := lower (trim t)
    if word ∈ trueWords then .ok (.bool true)
    else if word ∈ falseWords then .ok (.bool false)
    else .error (.configValue setting)
  | _ => .error (.configValue setting)

/-- What a setting makes of a new value. -/
def readSetting (setting : Setting) (given : Value) : Except Fault Value :=
  match setting with
  | .prefixBonus | .titleMultiplier | .keywordMultiplier => readWeight setting given
  | .limit | .pageSize => readCount 1 setting given
  | .debounceMs => readCount 0 setting given
  | .catalogPath => readPath setting given
  | .includeBuiltins => readFlag setting given

/-- The configuration with a new value for one setting. -/
def change (config : Config) (setting : Setting) (given : Value) : Except Fault Config :=
  (readSetting setting given).map (config.put setting)

/-- The configuration with a new value for a setting, if the fields have its key. -/
def changeFrom (fields : Fields) (config : Config) (setting : Setting) : Except Fault Config :=
  match fields.get? setting.key with
  | some given => config.change setting given
  | none => .ok config

/-- The configuration with new values for the settings whose keys the fields have. -/
def changeAll (config : Config) (fields : Fields) : Except Fault Config :=
  Setting.all.foldlM (changeFrom fields) config

/-- The fields of a payload. -/
def payloadFields : Value → Except Fault Fields
  | .object fields => .ok fields
  | .text t =>
    match Json.readDocument t with
    | .ok (.object fields) => .ok fields
    | .error (.tooManyDigits count) => .error (.tooManyDigits (some count))
    | _ => .error .configNotObject
  | _ => .error .configNotObject

/-- The configuration that a payload makes of another one. -/
def ofPayload (base : Config) (payload : Value) : Except Fault Config := do
  base.changeAll (← payloadFields payload)

end Launcher.Config
