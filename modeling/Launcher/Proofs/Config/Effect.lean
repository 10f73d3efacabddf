import Launcher.Proofs.Config.Validity

/-!
# What a payload changes

A payload is taken setting by setting: a setting whose key the fields have gets what it makes of the
value under that key, and every other setting keeps the value that it has. So the configuration that
comes out is known from the fields alone, setting by setting, and from the one before only where the
fields are silent:

> **`changeAll_eq_ok_iff`** the fields make one configuration of another exactly if each setting has
> the value that they give it
> `readSetting_eq_self_iff` the values that a setting makes of others are those that it leaves alone
> **`ofPayload_effect`** a payload keeps a configuration tidy and touches only what it names

A configuration is `Tidy` if each of its values is one that its setting can make of some value; that
is a valid one whose path has no blanks at its ends.
-/

namespace Launcher

open Text

/-- The value is one that the setting makes of another: it is accepted, and a text, which can only
be a path, has no blanks at its ends. -/
def Setting.Gives (setting : Setting) (v : Value) : Prop :=
  setting.Accepts v ∧ ∀ s, v = .text s → IsTrimmed s

namespace Config

/-- Every setting has a value that it gives. -/
def Tidy (config : Config) : Prop := ∀ setting : Setting, setting.Gives (config.value setting)

variable {config changed base : Config} {setting : Setting} {given v : Value}
  {fields others : Fields}

theorem Tidy.valid (h : config.Tidy) : config.Valid := fun setting => (h setting).1

theorem tidy_standard : standard.Tidy := by
  intro setting
  refine ⟨valid_standard setting, ?_⟩
  cases setting with
  | prefixBonus | titleMultiplier | keywordMultiplier | limit | pageSize | debounceMs
  | catalogPath | includeBuiltins => exact nofun

/-! ## One setting -/

/-- What a setting makes of a value is one that it gives. -/
theorem readSetting_gives (h : readSetting setting given = .ok v) : setting.Gives v := by
  refine ⟨readSetting_accepts h, ?_⟩
  intro s hs
  have haccepts := readSetting_accepts h
  rw [hs] at haccepts h
  cases setting with
  | prefixBonus | titleMultiplier | keywordMultiplier =>
    obtain ⟨x, hx, -⟩ := haccepts
    cases hx
  | limit | pageSize | debounceMs =>
    obtain ⟨n, -, hn⟩ := haccepts
    cases hn
  | includeBuiltins =>
    obtain ⟨b, hb⟩ := haccepts
    cases hb
  | catalogPath =>
    -- only a path is a text, and it has been trimmed
    replace h : readPath .catalogPath given = .ok (.text s) := h
    unfold readPath at h
    simp only at h
    split at h
    · cases h
    · next t =>
      by_cases hempty : (trim t).isEmpty = true
      · rw [if_pos hempty] at h
        cases h
      · rw [if_neg hempty] at h
        cases h
        exact isTrimmed_trim (by simpa using hempty)
    · cases h

theorem checkedWeight_of_isWeight {x : Float} (h : IsWeight x) (setting : Setting) :
    checkedWeight setting x = .ok (.float x) := by
  obtain ⟨hnumber, hnonneg⟩ := h
  unfold checkedWeight
  rw [hnumber, Bool.or_false, if_neg (by simpa using hnonneg)]

theorem checkedCount_of_le {least n : Int} (h : least ≤ n) (setting : Setting) :
    checkedCount least setting n = .ok (.int n) := by
  unfold checkedCount
  rw [if_neg (Int.not_lt.mpr h)]

/-- **A setting leaves alone exactly the values that it gives.** -/
theorem readSetting_eq_self_iff : readSetting setting v = .ok v ↔ setting.Gives v := by
  refine ⟨readSetting_gives, ?_⟩
  intro h
  obtain ⟨haccepts, htrimmed⟩ := h
  cases setting with
  | prefixBonus | titleMultiplier | keywordMultiplier =>
    obtain ⟨x, rfl, hweight⟩ := haccepts
    exact checkedWeight_of_isWeight hweight _
  | limit | pageSize | debounceMs =>
    obtain ⟨n, hleast, rfl⟩ := haccepts
    exact checkedCount_of_le hleast _
  | includeBuiltins =>
    obtain ⟨b, rfl⟩ := haccepts
    rfl
  | catalogPath =>
    obtain rfl | ⟨s, rfl, -⟩ := haccepts
    · rfl
    · obtain ⟨hne, hbare⟩ := htrimmed s rfl
      show Except.ok (if (trim s).isEmpty then Value.null else .text (trim s)) = _
      rw [trim_eq_self_iff.mpr hbare, if_neg (by simpa using hne)]

/-! ## All settings -/

/-- A configuration is given by the values of its settings. -/
theorem ext_value (h : ∀ setting, config.value setting = changed.value setting) :
    config = changed := by
  have hbonus := h .prefixBonus
  have htitle := h .titleMultiplier
  have hkeyword := h .keywordMultiplier
  have hlimit := h .limit
  have hpage := h .pageSize
  have hdebounce := h .debounceMs
  have hpath := h .catalogPath
  have hflag := h .includeBuiltins
  cases config
  cases changed
  simp only [value] at *
  subst hbonus htitle hkeyword hlimit hpage hdebounce hpath hflag
  rfl

/-- What the fields make of a setting: what it makes of the value under its key, or the value that
it has. -/
def outcome (fields : Fields) (base : Config) (setting : Setting) : Except Fault Value :=
  match fields.get? setting.key with
  | some given => readSetting setting given
  | none => .ok (base.value setting)

/-- Looking at one setting gives it its outcome, and leaves the others. -/
theorem changeFrom_eq (fields : Fields) (base : Config) (setting : Setting) :
    changeFrom fields base setting
      = (outcome fields base setting).map fun v => base.put setting v := by
  unfold changeFrom outcome
  cases fields.get? setting.key with
  | some given => rfl
  | none =>
    show Except.ok base = .ok (base.put setting (base.value setting))
    cases setting <;> rfl

/-- What the fields make of a setting does not depend on the other settings. -/
theorem outcome_put_of_ne {other : Setting} (h : setting ≠ other) (v : Value) :
    outcome fields (base.put setting v) other = outcome fields base other := by
  unfold outcome
  rw [value_put_of_ne h]

/-- Some settings are taken one after the other: each of them gets what the fields make of it, and
no other is touched. -/
theorem foldlM_changeFrom_eq_ok_iff {settings : List Setting} (hnodup : settings.Nodup) :
    ∀ {base : Config}, settings.foldlM (changeFrom fields) base = .ok changed ↔
      (∀ setting ∈ settings, outcome fields base setting = .ok (changed.value setting)) ∧
      ∀ setting, setting ∉ settings → changed.value setting = base.value setting := by
  induction settings with
  | nil =>
    intro base
    constructor
    · intro h
      cases h
      exact ⟨nofun, fun _ _ => rfl⟩
    · intro h
      exact congrArg Except.ok (ext_value fun setting => (h.2 setting List.not_mem_nil).symm)
  | cons first rest ih =>
    intro base
    obtain ⟨hfirst, hrest⟩ := List.nodup_cons.mp hnodup
    have hne : ∀ setting ∈ rest, first ≠ setting := fun setting hmem heq => hfirst (heq ▸ hmem)
    rw [List.foldlM_cons, changeFrom_eq]
    constructor
    · intro h
      obtain ⟨next, hnext, hfold⟩ := exists_of_bind_eq_ok h
      cases hv : outcome fields base first with
      | error fault =>
        rw [hv] at hnext
        cases hnext
      | ok v =>
        rw [hv] at hnext
        cases hnext
        obtain ⟨htaken, hkept⟩ := (ih hrest).mp hfold
        have hself : changed.value first = v := by
          rw [hkept first hfirst, value_put_self]
        refine ⟨List.forall_mem_cons.mpr ⟨by rw [hv, hself], fun setting hmem => ?_⟩, ?_⟩
        · rw [← outcome_put_of_ne (hne setting hmem) v]
          exact htaken setting hmem
        · intro setting hnot
          rw [List.mem_cons, not_or] at hnot
          obtain ⟨hother, hnot⟩ := hnot
          rw [hkept setting hnot, value_put_of_ne (Ne.symm hother)]
    · intro h
      obtain ⟨htaken, hkept⟩ := h
      obtain ⟨hv, htaken⟩ := List.forall_mem_cons.mp htaken
      rw [hv]
      refine (ih hrest).mpr ⟨fun setting hmem => ?_, fun setting hnot => ?_⟩
      · rw [outcome_put_of_ne (hne setting hmem)]
        exact htaken setting hmem
      · by_cases heq : first = setting
        · rw [← heq, value_put_self]
        · rw [value_put_of_ne heq]
          refine hkept setting ?_
          rw [List.mem_cons, not_or]
          exact ⟨Ne.symm heq, hnot⟩

theorem mem_all (setting : Setting) : setting ∈ Setting.all := by
  cases setting <;> decide

/-- **What fields make of a configuration**, setting by setting. -/
theorem changeAll_eq_ok_iff : base.changeAll fields = .ok changed ↔
    ∀ setting, outcome fields base setting = .ok (changed.value setting) := by
  unfold changeAll
  rw [foldlM_changeFrom_eq_ok_iff (by decide : Setting.all.Nodup)]
  constructor
  · intro h setting
    exact h.1 setting (mem_all setting)
  · intro h
    exact ⟨fun setting _ => h setting, fun setting hnot => absurd (mem_all setting) hnot⟩

/-- Only the keys of settings count: fields that agree on them do the same, also if they are
refused. -/
theorem changeAll_congr
    (h : ∀ setting : Setting, others.get? setting.key = fields.get? setting.key) :
    base.changeAll others = base.changeAll fields := by
  have hsame : changeFrom others = changeFrom fields := by
    funext config setting
    unfold changeFrom
    rw [h setting]
  unfold changeAll
  rw [hsame]

/-- A payload leads from a tidy configuration to a tidy one. -/
theorem Tidy.changeAll (hbase : base.Tidy) (h : base.changeAll fields = .ok changed) :
    changed.Tidy := by
  intro setting
  have hvalue := changeAll_eq_ok_iff.mp h setting
  unfold outcome at hvalue
  split at hvalue
  · exact readSetting_gives hvalue
  · rw [← Except.ok.inj hvalue]
    exact hbase setting

/-! ## Payloads -/

/-- The value that a setting gets from a value under its key, whatever configuration is changed and
whatever else the payload holds. -/
theorem value_of_ofPayload {payload : Value} (h : ofPayload base payload = .ok config)
    (hfields : payloadFields payload = .ok fields) :
    (fields.get? setting.key = none → config.value setting = base.value setting) ∧
      ∀ given, fields.get? setting.key = some given →
        readSetting setting given = .ok (config.value setting) := by
  unfold ofPayload at h
  rw [hfields] at h
  have hvalue := changeAll_eq_ok_iff.mp h setting
  unfold outcome at hvalue
  constructor
  · intro hnone
    rw [hnone] at hvalue
    exact (Except.ok.inj hvalue).symm
  · intro given hgiven
    rw [hgiven] at hvalue
    exact hvalue

/-- **A payload touches only what it names.** Whenever it is taken, a tidy configuration has become
a tidy one; the settings whose keys it does not have are as before; another payload that has the
same values under the keys of settings, whatever it has under other keys, is taken too and makes the
same of the configuration; and a setting whose key the payload has is now as after any other payload
with that value under the key, on any other configuration. -/
theorem ofPayload_effect {payload : Value} (hbase : base.Tidy)
    (h : ofPayload base payload = .ok config) :
    config.Tidy ∧ ∃ fields, payloadFields payload = .ok fields ∧
      (∀ setting : Setting, fields.get? setting.key = none →
        config.value setting = base.value setting) ∧
      (∀ payload' others, payloadFields payload' = .ok others →
        (∀ setting : Setting, others.get? setting.key = fields.get? setting.key) →
          ofPayload base payload' = .ok config) ∧
      ∀ (setting : Setting) given, fields.get? setting.key = some given →
        ∀ other payload' others config', payloadFields payload' = .ok others →
          others.get? setting.key = some given → ofPayload other payload' = .ok config' →
            config'.value setting = config.value setting := by
  obtain ⟨fields, hfields, hchange⟩ := exists_of_bind_eq_ok h
  refine ⟨hbase.changeAll hchange, fields, hfields, ?_, ?_, ?_⟩
  · intro setting hnone
    exact (value_of_ofPayload h hfields).1 hnone
  · intro payload' others hothers hagree
    unfold ofPayload
    rw [hothers]
    show base.changeAll others = .ok config
    rw [changeAll_congr hagree, hchange]
  · intro setting given hgiven other payload' others config' hothers hgiven' h'
    have hhere := (value_of_ofPayload h hfields).2 given hgiven
    have hthere := (value_of_ofPayload h' hothers).2 given hgiven'
    rw [hhere] at hthere
    exact (Except.ok.inj hthere).symm

/-- A payload with blanks around a path, with numbers as text and as a double, and with a key that
is none of a setting. -/
def menuFields : Fields :=
  [("limit", .text " 3 "), ("theme", .text "dark"), ("catalog_path", .text " menu.json "),
    ("debounce_ms", .float 20.0)]

/-- What it makes of the standard configuration. -/
def menuConfig : Config :=
  { limit := .int 3, debounceMs := .int 20, catalogPath := .text "menu.json" }

/-- The payload is taken, and without the key that is none of a setting it does the same. -/
theorem menu_effect : standard.Tidy ∧ ofPayload standard (.object menuFields) = .ok menuConfig ∧
    menuConfig.Tidy ∧ menuConfig.value .pageSize = standard.value .pageSize ∧
    ofPayload standard (.object (menuFields.filter (·.1 != "theme"))) = .ok menuConfig := by
  have htaken : ofPayload standard (.object menuFields) = .ok menuConfig := by rfl
  obtain ⟨htidy, fields, hfields, hsilent, hagree, -⟩ := ofPayload_effect tidy_standard htaken
  cases hfields
  refine ⟨tidy_standard, htaken, htidy, hsilent .pageSize (by decide), hagree _ _ rfl ?_⟩
  intro setting
  cases setting <;> rfl

end Config

end Launcher
