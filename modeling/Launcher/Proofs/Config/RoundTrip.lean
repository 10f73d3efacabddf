import Launcher.Proofs.Config.Effect
import Launcher.Proofs.Config.Update

/-!
# A saved configuration read back

A stored document has two readers: the one that loads the configuration in force, which converts
numbers and puts them into range, and the one that takes it as a payload, which checks them. The
writer leaves out the path if there is none. On a tidy configuration they agree, unless its path
holds half of a surrogate pair: then the file is left empty, and neither reads anything.

> `toStoredText_of_hasShortCounts` a tidy configuration can be written
> `changeAll_storedFields` its document changes every configuration without a path into it
> **`save_reads_back`** what is saved is read back by both readers
-/

namespace Launcher.Config

open Decimal

variable {machine after : Machine} {config base : Config} {t : Text}

/-- The counts have no more digits than are written. -/
def HasShortCounts (config : Config) : Prop :=
  ∀ (setting : Setting) (n : Int), config.value setting = .int n → n.natAbs < 10 ^ maxDigits

/-! ## The writer -/

theorem haveWritableValues_iff {fields : Fields} : Json.haveWritableValues fields = true ↔
    ∀ kv ∈ fields, Json.isWritable kv.2 = true := by
  induction fields with
  | nil => simp [Json.haveWritableValues]
  | cons kv rest ih => simp [Json.haveWritableValues, ih]

/-- A whole number of at most 4300 digits can be written. -/
theorem isWritable_int {n : Int} (h : n.natAbs < 10 ^ maxDigits) :
    Json.isWritable (.int n) = true := by
  have hlength : (digitChars n.natAbs).length ≤ maxDigits :=
    (Nat.length_toDigits_le_iff (by decide) (by decide)).mpr h
  simpa [Json.isWritable] using hlength

/-- The settings of a tidy configuration with short counts can all be written. -/
theorem isWritable_value (h : config.Tidy) (hshort : config.HasShortCounts) (setting : Setting) :
    Json.isWritable (config.value setting) = true := by
  have haccepts := h.valid setting
  cases setting with
  | prefixBonus | titleMultiplier | keywordMultiplier =>
    obtain ⟨x, hx, -⟩ := haccepts
    rw [hx]
    rfl
  | limit | pageSize | debounceMs =>
    obtain ⟨n, -, hn⟩ := haccepts
    rw [hn]
    exact isWritable_int (hshort _ n hn)
  | catalogPath =>
    obtain hnull | ⟨path, hpath, -⟩ := haccepts
    · rw [hnull]
      rfl
    · rw [hpath]
      rfl
  | includeBuiltins =>
    obtain ⟨b, hb⟩ := haccepts
    rw [hb]
    rfl

/-- A tidy configuration with short counts can be written. -/
theorem toStoredText_of_hasShortCounts (h : config.Tidy) (hshort : config.HasShortCounts) :
    ∃ t, config.toStoredText = .ok t := by
  have hwritable : Json.isWritable config.toStored = true := by
    rw [toStored_eq h.valid.proper]
    show Json.haveWritableValues config.storedFields = true
    rw [haveWritableValues_iff]
    intro kv hkv
    obtain ⟨setting, -, rfl⟩ := List.mem_map.mp hkv
    exact isWritable_value h hshort setting
  exact ⟨_, if_pos hwritable⟩

/-! ## The strict reader -/

/-- A stored document is a payload with the stored fields. -/
theorem payloadFields_of_toStoredText (h : config.Proper) (ht : config.toStoredText = .ok t) :
    payloadFields (.text t) = .ok config.storedFields := by
  obtain ⟨hwritable, rfl⟩ := toStoredText_eq_ok_iff.mp ht
  simp only [payloadFields]
  rw [Json.readDocument_write Json.Layout.spaced_indented hwritable (distinct_toStored h),
    toStored_eq h]

/-- The only setting that may be left out of the document is the path, if there is none. -/
theorem value_of_not_stored (h : config.Proper) {setting : Setting}
    (hnot : setting ∉ config.storedSettings) :
    setting = .catalogPath ∧ config.value setting = .null := by
  cases setting with
  | prefixBonus | titleMultiplier | keywordMultiplier | limit | pageSize | debounceMs
  | includeBuiltins => exact absurd (by simp [storedSettings, storedAsGiven]) hnot
  | catalogPath =>
    obtain hnull | ⟨htrue, -⟩ := h .catalogPath
    · exact ⟨rfl, hnull⟩
    · have hpath : config.catalogPath.isTrue = true := htrue
      exact absurd (by simp [storedSettings, hpath]) hnot

/-- The document of a tidy configuration changes every configuration without a path into it. -/
theorem changeAll_storedFields (h : config.Tidy) (hbase : base.catalogPath = .null) :
    base.changeAll config.storedFields = .ok config := by
  rw [changeAll_eq_ok_iff]
  intro setting
  unfold outcome
  rw [get?_storedFields]
  by_cases hmem : setting ∈ config.storedSettings
  · rw [if_pos hmem]
    exact readSetting_eq_self_iff.mpr (h setting)
  · rw [if_neg hmem]
    obtain ⟨rfl, hnull⟩ := value_of_not_stored h.valid.proper hmem
    rw [hnull]
    exact congrArg Except.ok hbase

/-- A stored document, taken as a payload, gives the configuration that was stored. -/
theorem ofPayload_toStoredText (h : config.Tidy) (ht : config.toStoredText = .ok t)
    (hbase : base.catalogPath = .null) : ofPayload base (.text t) = .ok config := by
  unfold ofPayload
  rw [payloadFields_of_toStoredText h.valid.proper ht]
  exact changeAll_storedFields h hbase

/-! ## Saving -/

/-- A configuration is saved only if the directory can be made. -/
theorem makes_of_save (h : (save config).on machine = (.ok (), after)) :
    (Machine.makeDirectory.on machine).1 = .ok () := by
  rcases hmade : Machine.makeDirectory.on machine with ⟨fault | ⟨⟩, made⟩
  · unfold save at h
    rw [Action.on_bind_error hmade] at h
    cases h
  · rfl

section Saved

variable (placed : machine.Placed) (closed : machine.files.Closed)
  (ht : config.toStoredText = .ok t)
include placed closed ht

/-- A configuration whose text can be written is saved exactly if the directory can be made and is
not in the way of the file. -/
theorem save_ok_iff {s : String} (hs : t.encode = .ok s) :
    (∃ after, (save config).on machine = (.ok (), after)) ↔
      (Machine.makeDirectory.on machine).1 = .ok () ∧
        machine.files.get? machine.configPlace ≠ some .directory := by
  constructor
  · intro h
    obtain ⟨after, hsave⟩ := h
    have makes := makes_of_save hsave
    refine ⟨makes, ?_⟩
    intro hdir
    obtain ⟨made, hmade⟩ := exists_made placed closed makes
    rw [hmade.save_on ht, Machine.writeFile_of_encode hs, putFile_of_stands_directory
      (hmade.placed placed) hmade.stands (hmade.same.trans hdir) s] at hsave
    cases hsave
  · intro h
    obtain ⟨makes, hfile⟩ := h
    obtain ⟨made, hmade⟩ := exists_made placed closed makes
    rw [← hmade.same] at hfile
    rw [hmade.save_on ht, Machine.writeFile_of_encode hs,
      putFile_of_stands (hmade.placed placed) hmade.stands hfile s]
    exact ⟨_, rfl⟩

/-- A configuration whose text holds half of a pair is never saved. -/
theorem not_saved_of_halves {stuck : Text.Halves} (hstuck : t.encode = .error stuck) :
    ¬ ∃ after, (save config).on machine = (.ok (), after) := by
  rintro ⟨after, hsave⟩
  obtain ⟨made, hmade⟩ := exists_made placed closed (makes_of_save hsave)
  rw [hmade.save_on ht, Machine.writeFile_of_halves hstuck] at hsave
  split at hsave
  · cases hsave
  · cases hsave

/-- Where another would be saved, it leaves an empty file, which holds no configuration. -/
theorem emptied_of_save (hshort : Tree.isLongPath machine.configFile = false)
    (makes : (Machine.makeDirectory.on machine).1 = .ok ())
    (hfile : machine.files.get? machine.configPlace ≠ some .directory)
    {stuck : Text.Halves} (hstuck : t.encode = .error stuck) :
    ∃ after, (save config).on machine = (.error (.halves stuck), after) ∧
      load.on after = (.error emptyFault, after) := by
  obtain ⟨made, hmade⟩ := exists_made placed closed makes
  rw [← hmade.same] at hfile
  rw [← hmade.configFile] at hshort
  have hreturn : '\r' ∉ "".toList := by simp
  obtain ⟨hempty, -⟩ := stored_of_put (hmade.placed placed) hshort hmade.stands hfile hreturn
  rw [hmade.save_on ht, Machine.writeFile_of_halves hstuck,
    putFile_of_stands (hmade.placed placed) hmade.stands hfile]
  refine ⟨_, rfl, ?_⟩
  rw [load_on, hempty]
  rfl

/-- After a proper configuration has been saved, it is the one in force, and its text is that of the
file. -/
theorem serves_of_save {s : String} (hs : t.encode = .ok s)
    (hshort : Tree.isLongPath machine.configFile = false)
    (hproper : config.Proper) (hsave : (save config).on machine = (.ok (), after)) :
    Serves after config ∧ after.read after.configFile = .ok s := by
  obtain ⟨makes, hfile⟩ := (save_ok_iff placed closed ht hs).mp ⟨after, hsave⟩
  obtain ⟨made, hmade⟩ := exists_made placed closed makes
  rw [← hmade.same] at hfile
  rw [← hmade.configFile] at hshort
  obtain rfl := Text.encode_eq_ok_iff.mp hs
  obtain ⟨written, hwritten, hserves, hread⟩ := serves_of_written (hmade.placed placed)
    hmade.closed hshort hmade.stands hfile hproper ht
  rw [hmade.save_on ht, hwritten] at hsave
  cases hsave
  exact ⟨hserves, hread⟩

end Saved

/-- **What is saved is read back by both readers.** A tidy configuration, whose weights may be
infinite, is saved unless its directory cannot be made, a directory stands in the place of its file,
or its path holds half of a surrogate pair. Then it is the one that is loaded, and the text of the
file changes every configuration without a path into it. With half of a pair in its path it is not
saved, and what is loaded afterwards is the fault of an empty file. -/
theorem save_reads_back (placed : machine.Placed) (closed : machine.files.Closed)
    (hpath : Tree.isLongPath machine.configFile = false)
    (htidy : config.Tidy) (hshort : config.HasShortCounts) :
    ((∃ after, (save config).on machine = (.ok (), after)) ↔
      (Machine.makeDirectory.on machine).1 = .ok () ∧
        machine.files.get? machine.configPlace ≠ some .directory ∧
        Json.holdsHalf config.catalogPath = false) ∧
    (∀ after, (save config).on machine = (.ok (), after) →
      load.on after = (.ok config, after) ∧
        ∃ s : String, after.read after.configFile = .ok s ∧
          ∀ base : Config, base.catalogPath = .null → ofPayload base (.text s) = .ok config) ∧
    ((Machine.makeDirectory.on machine).1 = .ok () →
      machine.files.get? machine.configPlace ≠ some .directory →
        Json.holdsHalf config.catalogPath = true →
          ∃ stuck after, (save config).on machine = (.error (.halves stuck), after) ∧
            load.on after = (.error emptyFault, after)) := by
  have hproper := htidy.valid.proper
  obtain ⟨t, ht⟩ := toStoredText_of_hasShortCounts htidy hshort
  rw [← hproper.hasHalf_toStoredText ht]
  rcases hencode : t.encode with stuck | s
  · -- the path holds half of a pair
    have hhalf : t.hasHalf = true := by
      by_contra hfalse
      obtain ⟨s, hs⟩ := Text.exists_encode_iff.mpr (by simpa using hfalse)
      rw [hs] at hencode
      cases hencode
    have hnot := not_saved_of_halves placed closed ht hencode
    refine ⟨?_, fun after hsave => absurd ⟨after, hsave⟩ hnot, fun makes hfile _ => ?_⟩
    · rw [hhalf]
      exact iff_of_false hnot nofun
    · exact ⟨stuck, emptied_of_save placed closed ht hpath makes hfile hencode⟩
  · have hhalf : t.hasHalf = false := Text.exists_encode_iff.mp ⟨s, hencode⟩
    rw [hhalf]
    refine ⟨?_, fun after hsave => ?_, fun _ _ => nofun⟩
    · rw [save_ok_iff placed closed ht hencode]
      simp
    · obtain ⟨hserves, hread⟩ := serves_of_save placed closed ht hencode hpath hproper hsave
      refine ⟨hserves.load_on, s, hread, fun base hbase => ?_⟩
      obtain rfl := Text.encode_eq_ok_iff.mp hencode
      exact ofPayload_toStoredText htidy ht hbase

/-- A configuration with an infinite weight, a negative zero, a large count and a path with a space
in it. -/
def wideConfig : Config :=
  { prefixBonus := .float (1.0 / 0.0), titleMultiplier := .float (-0.0), limit := .int 1,
    debounceMs := .int (10 ^ 40), catalogPath := .text "my menu.json",
    includeBuiltins := .bool false }

theorem tidy_wideConfig : wideConfig.Tidy := by
  intro setting
  have hstandard := tidy_standard setting
  cases setting with
  | prefixBonus => exact ⟨⟨_, rfl, by decide, by decide⟩, nofun⟩
  | titleMultiplier => exact ⟨⟨_, rfl, by decide, by decide⟩, nofun⟩
  | limit | debounceMs => exact ⟨⟨_, by decide, rfl⟩, nofun⟩
  | keywordMultiplier =>
    have hgives : Setting.keywordMultiplier.Gives (.float 0.2) := hstandard
    exact hgives
  | pageSize =>
    have hgives : Setting.pageSize.Gives (.int 8) := hstandard
    exact hgives
  | catalogPath => exact readSetting_eq_self_iff.mp (by rfl)
  | includeBuiltins => exact ⟨⟨false, rfl⟩, nofun⟩

theorem hasShortCounts_wideConfig : wideConfig.HasShortCounts := by
  intro setting n h
  have hlarge : 10 ^ 41 ≤ 10 ^ maxDigits := Nat.pow_le_pow_right (by decide) (by decide)
  refine Nat.lt_of_lt_of_le ?_ hlarge
  cases setting with
  | limit | pageSize | debounceMs => cases h; decide
  | prefixBonus | titleMultiplier | keywordMultiplier | catalogPath | includeBuiltins => cases h

/-- It is saved on a machine without files and read back. -/
theorem wideConfig_reads_back :
    bareMachine.Placed ∧ bareMachine.files.Closed ∧
      Tree.isLongPath bareMachine.configFile = false ∧ wideConfig.Tidy ∧
      wideConfig.HasShortCounts ∧
      ∃ (after : Machine) (s : String), (save wideConfig).on bareMachine = (.ok (), after) ∧
        load.on after = (.ok wideConfig, after) ∧ after.read after.configFile = .ok s ∧
        ofPayload standard (.text s) = .ok wideConfig := by
  obtain ⟨placed, closed, makes, -⟩ := bareMachine_serves
  have hpath : Tree.isLongPath bareMachine.configFile = false := by decide
  obtain ⟨hsaved, hback, -⟩ := save_reads_back placed closed hpath tidy_wideConfig
    hasShortCounts_wideConfig
  obtain ⟨after, hsave⟩ := hsaved.mpr ⟨makes, nofun, by rfl⟩
  obtain ⟨hload, s, hread, hpayload⟩ := hback after hsave
  exact ⟨placed, closed, hpath, tidy_wideConfig, hasShortCounts_wideConfig, after, s, hsave,
    hload, hread, hpayload standard rfl⟩

/-- A configuration with half of a surrogate pair for its path. -/
def halfConfig : Config := standard.put .catalogPath (.text Text.loneHalf)

theorem tidy_halfConfig : halfConfig.Tidy := by
  intro setting
  have hstandard := tidy_standard setting
  cases setting with
  | catalogPath => exact readSetting_eq_self_iff.mp (by rfl)
  | prefixBonus | titleMultiplier | keywordMultiplier | limit | pageSize | debounceMs
  | includeBuiltins => exact hstandard

theorem hasShortCounts_halfConfig : halfConfig.HasShortCounts := by
  intro setting n h
  have hlarge : 10 ^ 1 ≤ 10 ^ maxDigits := Nat.pow_le_pow_right (by decide) (by decide)
  refine Nat.lt_of_lt_of_le ?_ hlarge
  cases setting with
  | limit | pageSize | debounceMs => cases h; decide
  | prefixBonus | titleMultiplier | keywordMultiplier | catalogPath | includeBuiltins => cases h

/-- It is tidy and has short counts, but saving it on a machine without files fails, and afterwards
nothing can be loaded. -/
theorem halfConfig_not_saved : halfConfig.Tidy ∧ halfConfig.HasShortCounts ∧
    ∃ stuck after, (save halfConfig).on bareMachine = (.error (.halves stuck), after) ∧
      load.on after = (.error emptyFault, after) := by
  obtain ⟨placed, closed, makes, -⟩ := bareMachine_serves
  have htidy := tidy_halfConfig
  obtain ⟨t, ht⟩ := toStoredText_of_hasShortCounts htidy hasShortCounts_halfConfig
  rcases hencode : t.encode with stuck | s
  · exact ⟨htidy, hasShortCounts_halfConfig, stuck,
      emptied_of_save placed closed ht (by decide) makes nofun hencode⟩
  · have hhalf := htidy.valid.proper.hasHalf_toStoredText ht
    rw [Text.exists_encode_iff.mp ⟨s, hencode⟩] at hhalf
    cases hhalf

end Launcher.Config
