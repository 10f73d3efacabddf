import Launcher.Proofs.Config.Update
import Launcher.Proofs.Text.Trim

/-!
# Valid configurations

What a setting accepts is what its check lets through: a weight that is a number and not negative, a
count that is not below its least, a path that is not blank, a truth value. A configuration is valid
if every setting has a value that it accepts. The standard configuration is valid, and a valid one
stays valid under every change and every payload:

> `readSetting_accepts`, `Valid.assign`, `Valid.ofPayload`

Reading the stored configuration has conversions of its own. They put the counts into range and make
a truth value of the flag, but take weights and paths as they come:

> **`stored_valid_iff`** the configuration that is read from a document is valid exactly if no
> weight in it is negative or no number, and the path in it is a text that is not blank or counts as
> false.

So only a document that was written by another hand can break it: what the launcher itself stores
stays valid (`Serves.store_valid`).
-/

namespace Launcher

open Decimal Text

/-- The settings that hold a weight. -/
def Setting.weights : List Setting := [.prefixBonus, .titleMultiplier, .keywordMultiplier]

/-- The double can be a weight: it is a number and not negative. -/
def IsWeight (x : Float) : Prop := x.isNaN = false ∧ ¬x < 0.0

/-- The value is one that the check of the setting lets through. -/
def Setting.Accepts (setting : Setting) (v : Value) : Prop :=
  match setting with
  | .prefixBonus | .titleMultiplier | .keywordMultiplier => ∃ x, v = .float x ∧ IsWeight x
  | .limit | .pageSize => ∃ n : Int, 1 ≤ n ∧ v = .int n
  | .debounceMs => ∃ n : Int, 0 ≤ n ∧ v = .int n
  | .catalogPath => v = .null ∨ ∃ s, v = .text s ∧ isBlankText s = false
  | .includeBuiltins => ∃ b, v = .bool b

/-- What a document has to keep to for reading it to give the setting a value that it accepts. -/
def Setting.Keeps (fields : Fields) (setting : Setting) : Prop :=
  match setting with
  | .prefixBonus | .titleMultiplier | .keywordMultiplier =>
    ∀ given x, fields.get? setting.key = some given → given.toFloat = .ok x → IsWeight x
  | .catalogPath =>
    (fields.getD setting.key).isTrue = true →
      ∃ s, fields.getD setting.key = .text s ∧ isBlankText s = false
  | .limit | .pageSize | .debounceMs | .includeBuiltins => True

namespace Config

/-- Every setting has a value that it accepts. -/
def Valid (config : Config) : Prop := ∀ setting : Setting, setting.Accepts (config.value setting)

variable {machine : Machine} {config changed base : Config} {setting : Setting} {given v : Value}
  {fields : Fields}

/-! ## Checks -/

/-- The standard configuration passes its own check. -/
theorem valid_standard : standard.Valid := by
  intro setting
  cases setting with
  | prefixBonus | titleMultiplier | keywordMultiplier =>
    exact ⟨_, rfl, by decide, by decide⟩
  | limit | pageSize | debounceMs => exact ⟨_, by decide, rfl⟩
  | catalogPath => exact Or.inl rfl
  | includeBuiltins => exact ⟨_, rfl⟩

theorem checkedWeight_accepts {x : Float} (h : checkedWeight setting x = .ok v) :
    ∃ x, v = .float x ∧ IsWeight x := by
  unfold checkedWeight at h
  split at h
  · cases h
  · next hgood =>
    cases h
    rw [Bool.or_eq_true, not_or, decide_eq_true_eq, Bool.not_eq_true] at hgood
    exact ⟨x, rfl, hgood.2, hgood.1⟩

/-- A weight that is accepted is a double that is not below zero. -/
theorem readWeight_accepts (hstandard : ∃ x, standard.value setting = .float x ∧ IsWeight x)
    (h : readWeight setting given = .ok v) : ∃ x, v = .float x ∧ IsWeight x := by
  rcases readWeight_cases h with rfl | ⟨x, hx⟩
  · exact hstandard
  · exact checkedWeight_accepts hx

/-- A catalog file that is accepted is null or not blank. -/
theorem readPath_accepts (h : readPath setting given = .ok v) :
    v = .null ∨ ∃ s, v = .text s ∧ isBlankText s = false := by
  unfold readPath at h
  simp only at h
  split at h
  · cases h
    exact Or.inl rfl
  · next s =>
    split at h
    · cases h
      exact Or.inl rfl
    · next hsome =>
      cases h
      have htrimmed : IsTrimmed (trim s) := isTrimmed_trim (by simpa using hsome)
      exact Or.inr ⟨trim s, rfl, htrimmed.not_blank⟩
  · cases h

/-- **What a setting makes of a new value, it accepts.** -/
theorem readSetting_accepts (h : readSetting setting given = .ok v) : setting.Accepts v := by
  have hallows := readSetting_allows h
  have hstandard := valid_standard setting
  cases setting with
  | prefixBonus | titleMultiplier | keywordMultiplier => exact readWeight_accepts hstandard h
  | limit | pageSize | debounceMs | includeBuiltins => exact hallows
  | catalogPath => exact readPath_accepts h

/-- A change that is accepted leaves the configuration valid. -/
theorem Valid.change (hc : config.Valid) (h : config.change setting given = .ok changed) :
    changed.Valid :=
  forall_value_change (fun _ => readSetting_accepts) hc h

/-- A change of a valid configuration gives a valid one. -/
theorem Valid.assign (hc : config.Valid) (h : config.assign setting given = .ok changed) :
    changed.Valid :=
  forall_value_assign (fun _ => readSetting_accepts) (fun b => ⟨b, rfl⟩) hc h

/-- All the changes of a payload, if they are accepted, leave the configuration valid. -/
theorem Valid.changeAll {settings : List Setting} (hc : config.Valid)
    (h : settings.foldlM (changeFrom fields) config = .ok changed) : changed.Valid := by
  induction settings generalizing config with
  | nil =>
    cases h
    exact hc
  | cons first rest ih =>
    rw [List.foldlM_cons] at h
    obtain ⟨next, hnext, hrest⟩ := exists_of_bind_eq_ok h
    refine ih ?_ hrest
    unfold changeFrom at hnext
    split at hnext
    · exact hc.change hnext
    · cases hnext
      exact hc

/-- **A payload makes a valid configuration** of a valid one, or is refused. -/
theorem Valid.ofPayload {payload : Value} (hbase : base.Valid)
    (h : Config.ofPayload base payload = .ok config) : config.Valid := by
  obtain ⟨fields, -, hfields⟩ := exists_of_bind_eq_ok h
  exact hbase.changeAll hfields

/-- A valid configuration is one that can have been read. -/
theorem Valid.proper (h : config.Valid) : config.Proper := by
  intro setting
  have haccepts := h setting
  cases setting with
  | prefixBonus | titleMultiplier | keywordMultiplier =>
    obtain ⟨x, hx, -⟩ := haccepts
    exact ⟨x, hx⟩
  | limit | pageSize | debounceMs | includeBuiltins => exact haccepts
  | catalogPath =>
    rcases haccepts with hnull | ⟨s, hs, hblank⟩
    · exact Or.inl hnull
    · refine Or.inr ⟨?_, by rw [hs]; trivial⟩
      rw [hs]
      cases hempty : s.isEmpty with
      | false => simp [Value.isTrue, hempty]
      | true =>
        rw [List.isEmpty_iff.mp hempty] at hblank
        cases hblank

/-! ## Reading -/

/-- A stored weight is converted and not checked. -/
theorem storedWeight_of_ofStored (h : ofStored fields = .ok config) :
    ∀ setting ∈ Setting.weights, storedWeight fields setting = .ok (config.value setting) := by
  unfold ofStored at h
  obtain ⟨prefixBonus, hbonus, h⟩ := exists_of_bind_eq_ok h
  obtain ⟨titleMultiplier, htitle, h⟩ := exists_of_bind_eq_ok h
  obtain ⟨keywordMultiplier, hkeyword, h⟩ := exists_of_bind_eq_ok h
  obtain ⟨limit, -, h⟩ := exists_of_bind_eq_ok h
  obtain ⟨pageSize, -, h⟩ := exists_of_bind_eq_ok h
  obtain ⟨debounceMs, -, h⟩ := exists_of_bind_eq_ok h
  cases h
  unfold Setting.weights
  simp only [List.forall_mem_cons]
  exact ⟨hbonus, htitle, hkeyword, nofun⟩

/-- A stored catalog file is whatever counts as true, of any type. -/
theorem catalogPath_of_ofStored (h : ofStored fields = .ok config) :
    config.catalogPath = if (fields.getD Setting.catalogPath.key).isTrue
      then fields.getD Setting.catalogPath.key else .null := by
  unfold ofStored at h
  obtain ⟨prefixBonus, -, h⟩ := exists_of_bind_eq_ok h
  obtain ⟨titleMultiplier, -, h⟩ := exists_of_bind_eq_ok h
  obtain ⟨keywordMultiplier, -, h⟩ := exists_of_bind_eq_ok h
  obtain ⟨limit, -, h⟩ := exists_of_bind_eq_ok h
  obtain ⟨pageSize, -, h⟩ := exists_of_bind_eq_ok h
  obtain ⟨debounceMs, -, h⟩ := exists_of_bind_eq_ok h
  cases h
  rfl

/-- A stored weight is accepted exactly if the double that it gives can be a weight. -/
theorem storedWeight_accepts_iff
    (hstandard : ∃ x, standard.value setting = .float x ∧ IsWeight x)
    (h : storedWeight fields setting = .ok v) :
    (∃ x, v = .float x ∧ IsWeight x) ↔
      ∀ given x, fields.get? setting.key = some given → given.toFloat = .ok x → IsWeight x := by
  unfold storedWeight at h
  cases hget : fields.get? setting.key with
  | none =>
    rw [hget] at h
    cases h
    exact ⟨fun _ => nofun, fun _ => hstandard⟩
  | some given =>
    rw [hget] at h
    simp only at h
    cases hfloat : given.toFloat with
    | error fault => rw [hfloat] at h; cases h
    | ok x =>
      rw [hfloat] at h
      cases h
      constructor
      · rintro ⟨y, hy, hgood⟩ other z hother hz
        cases hother
        rw [hfloat] at hz
        cases hz
        cases hy
        exact hgood
      · intro hgood
        exact ⟨x, rfl, hgood given x rfl hfloat⟩

/-- **What reading accepts**, setting by setting. -/
theorem ofStored_accepts_iff (hfields : Json.FieldsDistinct fields)
    (h : ofStored fields = .ok config) (setting : Setting) :
    setting.Accepts (config.value setting) ↔ setting.Keeps fields := by
  have hproper := ofStored_proper hfields h setting
  have hstandard := valid_standard setting
  cases setting with
  | prefixBonus | titleMultiplier | keywordMultiplier =>
    exact storedWeight_accepts_iff hstandard (storedWeight_of_ofStored h _ (by decide))
  | limit | pageSize | debounceMs | includeBuiltins => exact iff_of_true hproper trivial
  | catalogPath =>
    show (config.catalogPath = .null ∨ _) ↔ _
    rw [show config.value .catalogPath = config.catalogPath from rfl, catalogPath_of_ofStored h]
    by_cases htrue : (fields.getD Setting.catalogPath.key).isTrue = true
    · rw [if_pos htrue]
      constructor
      · rintro (hnull | htext) -
        · rw [hnull] at htrue
          cases htrue
        · exact htext
      · exact fun hkeeps => Or.inr (hkeeps htrue)
    · rw [if_neg htrue]
      exact iff_of_true (Or.inl rfl) fun hfalse => absurd hfalse htrue

/-- **Reading the stored configuration** puts counts and flag in order, and leaves weights and path
as they are: the configuration that is read is valid exactly if no weight in the document is
negative or no number, and the path in it counts as false or is a text that is not blank. -/
theorem stored_valid_iff {text : String} (hhas : machine.has machine.configFile = .ok true)
    (hread : machine.read machine.configFile = .ok text)
    (hdocument : Json.readDocument text = .ok (.object fields))
    (hstored : stored machine = .ok config) :
    (∀ setting : Setting, setting.Accepts (config.value setting) ↔ setting.Keeps fields) ∧
      (config.Valid ↔ ∀ setting : Setting, setting.Keeps fields) := by
  rw [stored_of_has hhas, hread] at hstored
  replace hstored : ofStoredText text = .ok config := hstored
  unfold ofStoredText at hstored
  rw [hdocument] at hstored
  have heach := ofStored_accepts_iff (Json.readDocument_distinct hdocument).2 hstored
  exact ⟨heach, forall_congr' heach⟩

/-- A document whose counts are out of range. -/
def lowCounts : Fields :=
  [("limit", .int 0), ("page_size", .int (-3)), ("debounce_ms", .int (-10))]

/-- The text of that document. -/
def lowCountsText : String :=
  "\x7b\"limit\": 0, \"page_size\": -3, \"debounce_ms\": -10\x7d"

/-- A document with a negative weight. -/
def negativeWeight : Fields := [("prefix_bonus", .int (-1))]

/-- The text of that document. -/
def negativeWeightText : String := "\x7b\"prefix_bonus\": -1\x7d"

/-- A document is read from its text. -/
theorem readDocument_of_write {text : String} (hwritable : Json.isWritable (.object fields) = true)
    (hdistinct : Json.Distinct (.object fields))
    (htext : Json.write .oneLine (.object fields) = text) :
    Json.readDocument text = .ok (.object fields) :=
  htext ▸ Json.readDocument_write Json.Layout.spaced_oneLine hwritable hdistinct

theorem readDocument_lowCountsText : Json.readDocument lowCountsText = .ok (.object lowCounts) :=
  readDocument_of_write (by decide)
    (by simp [lowCounts, Json.Distinct, Json.FieldsDistinct, Fields.keys]) (by rfl)

theorem readDocument_negativeWeightText :
    Json.readDocument negativeWeightText = .ok (.object negativeWeight) :=
  readDocument_of_write (by decide)
    (by simp [negativeWeight, Json.Distinct, Json.FieldsDistinct, Fields.keys]) (by rfl)

/-- A machine that stores the text of a document reads its fields. -/
theorem machineStoring_ofStored {text : String} (hreturn : '\r' ∉ text.toList)
    (hdocument : Json.readDocument text = .ok (.object fields)) :
    stored (machineStoring text []) = ofStored fields := by
  rw [machineStoring_stored hreturn]
  unfold ofStoredText
  rw [hdocument]

/-- Counts out of range are put into range, and the configuration is valid. -/
theorem lowCounts_valid : ∃ config,
    (machineStoring lowCountsText []).has (machineStoring lowCountsText []).configFile = .ok true ∧
      (machineStoring lowCountsText []).read (machineStoring lowCountsText []).configFile
        = .ok lowCountsText ∧
      Json.readDocument lowCountsText = .ok (.object lowCounts) ∧
      stored (machineStoring lowCountsText []) = .ok config ∧ config.Valid := by
  have hreturn : '\r' ∉ lowCountsText.toList := by decide
  have hhas := machineStoring_has lowCountsText []
  have hread := machineStoring_read hreturn []
  have hstored := machineStoring_ofStored hreturn readDocument_lowCountsText
  have hconfig : ofStored lowCounts
      = .ok { limit := .int 1, pageSize := .int 1, debounceMs := .int 0 } := by
    rfl
  rw [hconfig] at hstored
  refine ⟨_, hhas, hread, readDocument_lowCountsText, hstored, ?_⟩
  refine (stored_valid_iff hhas hread readDocument_lowCountsText hstored).2.mpr fun setting => ?_
  cases setting with
  | prefixBonus | titleMultiplier | keywordMultiplier =>
    intro given x hgiven
    cases hgiven
  | limit | pageSize | debounceMs | includeBuiltins => trivial
  | catalogPath =>
    intro htrue
    cases htrue

/-- A negative weight is read as it is, and the configuration is not valid. -/
theorem negativeWeight_not_valid : ∃ config,
    stored (machineStoring negativeWeightText []) = .ok config ∧ ¬config.Valid := by
  have hstored := machineStoring_ofStored (by decide) readDocument_negativeWeightText
  obtain ⟨x, hx, hnegative⟩ : ∃ x, ofInt? (-1) = some x ∧ x < 0.0 := by
    have hany : (ofInt? (-1)).any (· < 0.0) = true := by decide
    obtain ⟨x, hx, hnegative⟩ := (Option.any_eq_true _ _).mp hany
    exact ⟨x, hx, of_decide_eq_true hnegative⟩
  have hfloat : (Value.int (-1)).toFloat = .ok x := by
    unfold Value.toFloat
    simp only [hx]
  have hweight : storedWeight negativeWeight .prefixBonus = .ok (.float x) := by
    show (Value.int (-1)).toFloat.map Value.float = _
    rw [hfloat]
    rfl
  have hconfig : ofStored negativeWeight = .ok { prefixBonus := .float x } := by
    unfold ofStored
    rw [hweight]
    rfl
  refine ⟨_, hstored.trans hconfig, fun hvalid => ?_⟩
  obtain ⟨y, hy, -, hnot⟩ := hvalid .prefixBonus
  cases hy
  exact hnot hnegative

/-- A change that the launcher stores keeps the stored configuration valid. -/
theorem Serves.store_valid {change : Setting × Value} (h : Serves machine config)
    (hvalid : config.Valid) (haccept : config.accept change = .ok changed) :
    ∃ after, (store change.1 change.2).on machine = (.ok (), after) ∧
      Config.stored after = .ok changed ∧ changed.Valid := by
  obtain ⟨after, hon, hserves⟩ := h.store_accepted haccept
  obtain ⟨s, hprepared⟩ := accept_eq_ok_iff.mp haccept
  obtain ⟨hassign, -⟩ := prepared_eq_ok_iff.mp hprepared
  exact ⟨after, hon, hserves.stored, hvalid.assign hassign⟩

end Config

end Launcher
