import Launcher.Config.Stored
import Launcher.Proofs.Json.WrittenValue

/-!
# Stored configurations read back

A configuration that has been read from its document, and every one that is made of it by giving
settings new values, has doubles for weights, whole numbers in range for counts, a truth value for
the flag, and for the path nothing or something that counts as true. Such a configuration comes back
from the document that it is stored as.

> `Proper.assign`, `ofStored_proper` configurations are proper after a change and after reading
> **`ofStoredText_toStoredText`** a proper configuration comes back from its document
-/

namespace Launcher

open Decimal

/-- The setting can have the value in a configuration that is read or changed. -/
def Setting.Allows (setting : Setting) (v : Value) : Prop :=
  match setting with
  | .prefixBonus | .titleMultiplier | .keywordMultiplier => ∃ x, v = .float x
  | .limit | .pageSize => ∃ n : Int, 1 ≤ n ∧ v = .int n
  | .debounceMs => ∃ n : Int, 0 ≤ n ∧ v = .int n
  | .catalogPath => v = .null ∨ v.isTrue = true ∧ Json.Distinct v
  | .includeBuiltins => ∃ b, v = .bool b

namespace Config

/-- Every setting has a value that it can have. -/
def Proper (config : Config) : Prop := ∀ setting : Setting, setting.Allows (config.value setting)

variable {config changed : Config} {setting : Setting} {given v : Value} {fields : Fields}

theorem proper_standard : standard.Proper := by
  intro setting
  cases setting with
  | prefixBonus | titleMultiplier | keywordMultiplier => exact ⟨_, rfl⟩
  | limit | pageSize | debounceMs => exact ⟨_, by decide, rfl⟩
  | catalogPath => exact Or.inl rfl
  | includeBuiltins => exact ⟨_, rfl⟩

/-- What holds of every setting still does after one has been given a value of which it holds. -/
theorem forall_value_put {P : Setting → Value → Prop} (h : ∀ other, P other (config.value other))
    (hgiven : P setting given) : ∀ other, P other ((config.put setting given).value other) := by
  intro other
  by_cases heq : setting = other
  · rw [← heq, value_put_self]
    exact hgiven
  · rw [value_put_of_ne heq]
    exact h other

/-- What holds of every setting still does after a change, if it holds of what the check makes of a
new value. -/
theorem forall_value_change {P : Setting → Value → Prop}
    (hread : ∀ v, readSetting setting given = .ok v → P setting v)
    (hall : ∀ other, P other (config.value other)) (h : config.change setting given = .ok changed) :
    ∀ other, P other (changed.value other) := by
  unfold Config.change at h
  cases hgiven : readSetting setting given with
  | error fault =>
    rw [hgiven] at h
    cases h
  | ok v =>
    rw [hgiven] at h
    cases h
    exact forall_value_put hall (hread v hgiven)

/-- The same for a change that takes any value for a truth value. -/
theorem forall_value_assign {P : Setting → Value → Prop}
    (hread : ∀ v, readSetting setting given = .ok v → P setting v)
    (hflag : ∀ b, P .includeBuiltins (.bool b))
    (hall : ∀ other, P other (config.value other)) (h : config.assign setting given = .ok changed) :
    ∀ other, P other (changed.value other) := by
  unfold Config.assign at h
  split at h
  · cases h
    exact forall_value_put hall (hflag _)
  · exact forall_value_change hread hall h

/-- A setting with a value that it may have leaves the configuration proper. -/
theorem Proper.put (h : config.Proper) (hgiven : setting.Allows given) :
    (config.put setting given).Proper :=
  forall_value_put h hgiven

/-! ## Changes -/

theorem checkedWeight_float {x : Float} (h : checkedWeight setting x = .ok v) :
    ∃ y, v = .float y := by
  unfold checkedWeight at h
  split at h
  · cases h
  · cases h
    exact ⟨x, rfl⟩

/-- A weight that is read is the standard one or has passed the check. -/
theorem readWeight_cases (h : readWeight setting given = .ok v) :
    v = standard.value setting ∨ ∃ x, checkedWeight setting x = .ok v := by
  unfold readWeight at h
  simp only at h
  split at h
  · cases h
    exact Or.inl rfl
  · split at h
    · exact Or.inr ⟨_, h⟩
    · cases h
  · exact Or.inr ⟨_, h⟩
  · split at h
    · cases h
      exact Or.inl rfl
    · split at h
      · exact Or.inr ⟨_, h⟩
      · cases h
  · cases h

/-- A payload gives a weight as a double. -/
theorem readWeight_float (hstandard : ∃ x, standard.value setting = .float x)
    (h : readWeight setting given = .ok v) : ∃ x, v = .float x := by
  rcases readWeight_cases h with rfl | ⟨x, hx⟩
  · exact hstandard
  · exact checkedWeight_float hx

theorem checkedCount_int {least n : Int} (h : checkedCount least setting n = .ok v) :
    ∃ n : Int, least ≤ n ∧ v = .int n := by
  unfold checkedCount at h
  split at h
  · cases h
  · next hleast =>
    cases h
    exact ⟨n, Int.not_lt.mp hleast, rfl⟩

/-- A payload gives a count as a whole number that is not below the least. -/
theorem readCount_int {least : Int}
    (hstandard : ∃ n : Int, least ≤ n ∧ standard.value setting = .int n)
    (h : readCount least setting given = .ok v) : ∃ n : Int, least ≤ n ∧ v = .int n := by
  unfold readCount at h
  simp only at h
  split at h
  · cases h
    exact hstandard
  · exact checkedCount_int h
  · split at h
    · exact checkedCount_int h
    · cases h
  · split at h
    · cases h
      exact hstandard
    · split at h
      · exact checkedCount_int h
      · cases h
  · cases h

/-- A payload gives the catalog file as null or as a text. -/
theorem readPath_allows (h : readPath setting given = .ok v) : Setting.catalogPath.Allows v := by
  unfold readPath at h
  simp only at h
  split at h
  · cases h
    exact Or.inl rfl
  · split at h
    · cases h
      exact Or.inl rfl
    · next hsome =>
      cases h
      exact Or.inr ⟨by simpa [Value.isTrue] using hsome, trivial⟩
  · cases h

theorem readFlag_bool (h : readFlag setting given = .ok v) : ∃ b, v = .bool b := by
  unfold readFlag at h
  simp only at h
  split at h
  · cases h
    exact ⟨_, rfl⟩
  · split_ifs at h
    all_goals cases h; exact ⟨_, rfl⟩
  · split_ifs at h
    all_goals cases h; exact ⟨_, rfl⟩
  · cases h

/-- What is made of a new value is a value that the setting can have. -/
theorem readSetting_allows (h : readSetting setting given = .ok v) : setting.Allows v := by
  have hstandard := proper_standard setting
  cases setting with
  | prefixBonus | titleMultiplier | keywordMultiplier => exact readWeight_float hstandard h
  | limit | pageSize | debounceMs => exact readCount_int hstandard h
  | catalogPath => exact readPath_allows h
  | includeBuiltins => exact readFlag_bool h

/-- A changed configuration is as good as the one before. -/
theorem Proper.assign (hc : config.Proper) (h : config.assign setting given = .ok changed) :
    changed.Proper :=
  forall_value_assign (fun _ => readSetting_allows) (fun b => ⟨b, rfl⟩) hc h

/-! ## Reading -/

/-- A document gives a weight as a double. -/
theorem storedWeight_float (hstandard : ∃ x, standard.value setting = .float x)
    (h : storedWeight fields setting = .ok v) : ∃ x, v = .float x := by
  unfold storedWeight at h
  split at h
  · cases h
    exact hstandard
  · next given _ =>
    cases hfloat : given.toFloat with
    | error fault =>
      rw [hfloat] at h
      cases h
    | ok x =>
      rw [hfloat] at h
      cases h
      exact ⟨x, rfl⟩

/-- A document gives a count as a whole number that is not below the least. -/
theorem storedCount_int {least : Int}
    (hstandard : ∃ n : Int, least ≤ n ∧ standard.value setting = .int n)
    (h : storedCount fields least setting = .ok v) : ∃ n : Int, least ≤ n ∧ v = .int n := by
  unfold storedCount at h
  split at h
  · cases h
    exact hstandard
  · next given _ =>
    cases hint : given.toInt with
    | error fault =>
      rw [hint] at h
      cases h
    | ok n =>
      rw [hint] at h
      cases h
      exact ⟨max n least, le_max_right n least, rfl⟩

theorem distinct_getD (h : Json.FieldsDistinct fields) (key : Text) :
    Json.Distinct (fields.getD key) := by
  unfold Fields.getD Fields.get?
  cases hfind : fields.find? (·.1 == key) with
  | none => exact trivial
  | some entry => exact Json.fieldsDistinct_iff.mp h entry (List.mem_of_find?_eq_some hfind)

/-- What is read from a stored document is proper. -/
theorem ofStored_proper (hfields : Json.FieldsDistinct fields)
    (h : ofStored fields = .ok config) : config.Proper := by
  unfold ofStored at h
  obtain ⟨prefixBonus, hprefix, h⟩ := exists_of_bind_eq_ok h
  obtain ⟨titleMultiplier, htitle, h⟩ := exists_of_bind_eq_ok h
  obtain ⟨keywordMultiplier, hkeyword, h⟩ := exists_of_bind_eq_ok h
  obtain ⟨limit, hlimit, h⟩ := exists_of_bind_eq_ok h
  obtain ⟨pageSize, hpage, h⟩ := exists_of_bind_eq_ok h
  obtain ⟨debounceMs, hdebounce, h⟩ := exists_of_bind_eq_ok h
  cases h
  intro setting
  have hstandard := proper_standard setting
  cases setting with
  | prefixBonus => exact storedWeight_float hstandard hprefix
  | titleMultiplier => exact storedWeight_float hstandard htitle
  | keywordMultiplier => exact storedWeight_float hstandard hkeyword
  | limit => exact storedCount_int hstandard hlimit
  | pageSize => exact storedCount_int hstandard hpage
  | debounceMs => exact storedCount_int hstandard hdebounce
  | catalogPath =>
    show Setting.catalogPath.Allows (if _ then _ else _)
    split
    · next htrue => exact Or.inr ⟨htrue, distinct_getD hfields _⟩
    · exact Or.inl rfl
  | includeBuiltins => exact ⟨_, rfl⟩

/-- What is read from a document is proper. -/
theorem ofStoredText_proper {t : Text} (h : ofStoredText t = .ok config) : config.Proper := by
  unfold ofStoredText at h
  split at h
  · next fields hfields => exact ofStored_proper (Json.readDocument_distinct hfields).2 h
  all_goals cases h

/-! ## The way through a document -/

/-- No value of a setting has a key twice in it. -/
theorem distinct_of_allows (h : setting.Allows v) : Json.Distinct v := by
  cases setting with
  | prefixBonus | titleMultiplier | keywordMultiplier => obtain ⟨x, rfl⟩ := h; exact trivial
  | limit | pageSize | debounceMs => obtain ⟨n, -, rfl⟩ := h; exact trivial
  | catalogPath =>
    rcases h with rfl | ⟨-, h⟩
    · exact trivial
    · exact h
  | includeBuiltins => obtain ⟨b, rfl⟩ := h; exact trivial

theorem key_injective : Function.Injective Setting.key := by
  intro first second h
  cases first <;> cases second <;> first | rfl | simp [Setting.key] at h

/-- The settings that a configuration has in its document, in their order. -/
def storedSettings (config : Config) : List Setting :=
  storedAsGiven ++ .includeBuiltins :: if config.catalogPath.isTrue then [.catalogPath] else []

/-- The fields of the document of a configuration. -/
def storedFields (config : Config) : Fields :=
  config.storedSettings.map fun setting => (setting.key, config.value setting)

/-- A proper configuration is stored as the object of its fields. -/
theorem toStored_eq (h : config.Proper) : config.toStored = .object config.storedFields := by
  obtain ⟨b, hb⟩ : ∃ b, config.includeBuiltins = .bool b := h .includeBuiltins
  unfold toStored storedFields storedSettings
  split
  · simp [value, hb, Value.isTrue]
  · simp [value, hb, Value.isTrue]

theorem nodup_storedSettings (config : Config) : config.storedSettings.Nodup := by
  unfold storedSettings
  split
  · decide
  · decide

/-- A stored configuration has no key twice in it. -/
theorem distinct_toStored (h : config.Proper) : Json.Distinct config.toStored := by
  rw [toStored_eq h]
  refine ⟨?_, Json.fieldsDistinct_iff.mpr fun kv hkv => ?_⟩
  · rw [Fields.keys, storedFields, List.map_map]
    exact (nodup_storedSettings config).map key_injective
  · obtain ⟨setting, -, rfl⟩ := List.mem_map.mp hkv
    exact distinct_of_allows (h setting)

/-- The document has the settings that are stored, with their values. -/
theorem get?_storedFields (config : Config) (setting : Setting) :
    config.storedFields.get? setting.key
      = if setting ∈ config.storedSettings then some (config.value setting) else none := by
  unfold storedFields
  induction config.storedSettings with
  | nil => rfl
  | cons first rest ih =>
    by_cases heq : first = setting
    · simp [Fields.get?, heq]
    · have hkey : first.key ≠ setting.key := fun h => heq (key_injective h)
      simpa [Fields.get?, hkey, Ne.symm heq] using ih

/-- A weight is read back from the fields that are stored. -/
theorem storedWeight_storedFields (hmem : setting ∈ config.storedSettings)
    (h : ∃ x, config.value setting = .float x) :
    storedWeight config.storedFields setting = .ok (config.value setting) := by
  obtain ⟨x, hx⟩ := h
  rw [storedWeight, get?_storedFields, if_pos hmem, hx]
  rfl

/-- A count is read back from the fields that are stored. -/
theorem storedCount_storedFields {least : Int} (hmem : setting ∈ config.storedSettings)
    (h : ∃ n : Int, least ≤ n ∧ config.value setting = .int n) :
    storedCount config.storedFields least setting = .ok (config.value setting) := by
  obtain ⟨n, hleast, hn⟩ := h
  rw [storedCount, get?_storedFields, if_pos hmem, hn]
  show Except.ok (Value.int (max n least)) = _
  rw [max_eq_left hleast]

/-- The catalog file is read back, also when there is none to be stored. -/
theorem storedPath_storedFields (h : config.Proper) :
    (if (config.storedFields.getD Setting.catalogPath.key).isTrue
      then config.storedFields.getD Setting.catalogPath.key else .null) = config.catalogPath := by
  rw [Fields.getD, get?_storedFields]
  rcases h .catalogPath with hnull | ⟨htrue, -⟩
  · have hpath : config.catalogPath = .null := hnull
    have hmem : Setting.catalogPath ∉ config.storedSettings := by
      simp [storedSettings, storedAsGiven, hpath, Value.isTrue]
    rw [if_neg hmem, hpath]
    rfl
  · have hmem : Setting.catalogPath ∈ config.storedSettings := by
      have hpath : config.catalogPath.isTrue = true := htrue
      simp [storedSettings, hpath]
    rw [if_pos hmem]
    exact if_pos htrue

/-- A proper configuration is read from the fields that it is stored as. -/
theorem ofStored_storedFields (h : config.Proper) : ofStored config.storedFields = .ok config := by
  -- six settings are stored as they are; flag and path are the two that reading treats apart
  have hgiven : ∀ setting ∈ storedAsGiven, setting ∈ config.storedSettings := fun _ hmem =>
    List.mem_append_left _ hmem
  have hflag : Setting.includeBuiltins ∈ config.storedSettings := by simp [storedSettings]
  obtain ⟨b, hb⟩ : ∃ b, config.includeBuiltins = .bool b := h .includeBuiltins
  unfold ofStored
  rw [storedWeight_storedFields (hgiven .prefixBonus (by decide)) (h .prefixBonus),
    storedWeight_storedFields (hgiven .titleMultiplier (by decide)) (h .titleMultiplier),
    storedWeight_storedFields (hgiven .keywordMultiplier (by decide)) (h .keywordMultiplier),
    storedCount_storedFields (hgiven .limit (by decide)) (h .limit),
    storedCount_storedFields (hgiven .pageSize (by decide)) (h .pageSize),
    storedCount_storedFields (hgiven .debounceMs (by decide)) (h .debounceMs),
    get?_storedFields, if_pos hflag]
  show Except.ok { config with
    catalogPath := if _ then _ else _, includeBuiltins := .bool config.includeBuiltins.isTrue } = _
  rw [storedPath_storedFields h, hb]
  show Except.ok { config with includeBuiltins := .bool b } = _
  rw [← hb]

/-- **A proper configuration comes back from the text that it is stored as.** -/
theorem ofStoredText_toStoredText {t : Text} (h : config.Proper)
    (ht : config.toStoredText = .ok t) : ofStoredText t = .ok config ∧ .char '\r' ∉ t := by
  unfold toStoredText at ht
  split at ht
  · next hwritable =>
    cases ht
    have hdistinct := distinct_toStored h
    refine ⟨?_, Json.return_not_mem_write Json.Layout.spaced_indented hwritable hdistinct⟩
    unfold ofStoredText
    rw [Json.readDocument_write Json.Layout.spaced_indented hwritable hdistinct, toStored_eq h]
    exact ofStored_storedFields h
  · cases ht

end Config

end Launcher
