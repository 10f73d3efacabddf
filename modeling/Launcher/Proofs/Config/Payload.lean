import Launcher.Proofs.Config.Validity
import Launcher.Proofs.Decimal.Nearest
import Launcher.Request

/-!
# Payloads that are refused

A payload changes the settings one after the other and is refused with the first value that its
setting refuses. What a setting refuses it refuses by name, with one exception: a whole number for a
weight that no double can hold is not looked at as a value at all, and ends in a fault of its own.

> `readSetting_error`, `readSetting_vast` how a setting refuses a value
> `foldlM_changeFrom_eq_error_iff` fields are refused with the first of their values that is refused
> **`Request.resolveConfig_refusal_iff`** a payload gives a valid configuration or is refused as a
> request, unless such a number is the first thing in it that is refused.
-/

namespace Launcher

open Decimal Text

namespace Config

variable {setting : Setting} {given : Value} {fault : Fault} {fields : Fields} {base : Config}

/-- The value is a whole number beyond every double, and the setting holds a weight. -/
def IsVast (setting : Setting) (given : Value) : Prop :=
  setting ∈ Setting.weights ∧ ∃ n : Int, given = .int n ∧ 2 ^ 1024 - 2 ^ 970 ≤ |n|

/-! ## One value -/

theorem checkedWeight_error {x : Float} (h : checkedWeight setting x = .error fault) :
    fault = .configValue setting := by
  unfold checkedWeight at h
  split at h
  · cases h
    rfl
  · cases h

/-- A weight is refused as that of its setting, unless it is a whole number beyond the largest
double. -/
theorem readWeight_error (h : readWeight setting given = .error fault) :
    fault = .configValue setting ∨
      fault = .numberTooLarge ∧ ∃ n : Int, given = .int n ∧ 2 ^ 1024 - 2 ^ 970 ≤ |n| := by
  unfold readWeight at h
  simp only at h
  split at h
  · cases h
  · next n =>
    split at h
    · exact Or.inl (checkedWeight_error h)
    · next hnone =>
      cases h
      exact Or.inr ⟨rfl, n, rfl, (ofInt?_eq_none_iff n).mp hnone⟩
  · exact Or.inl (checkedWeight_error h)
  · split at h
    · cases h
    · split at h
      · exact Or.inl (checkedWeight_error h)
      · cases h
        exact Or.inl rfl
  · cases h
    exact Or.inl rfl

/-- Such a number is no refusal. -/
theorem readWeight_vast {n : Int} (hn : 2 ^ 1024 - 2 ^ 970 ≤ |n|) (setting : Setting) :
    readWeight setting (.int n) = .error .numberTooLarge := by
  unfold readWeight
  simp only [(ofInt?_eq_none_iff n).mpr hn]

theorem checkedCount_error {least n : Int} (h : checkedCount least setting n = .error fault) :
    fault = .configValue setting := by
  unfold checkedCount at h
  split at h
  · cases h
    rfl
  · cases h

/-- A count is refused as that of its setting. -/
theorem readCount_error {least : Int} (h : readCount least setting given = .error fault) :
    fault = .configValue setting := by
  unfold readCount at h
  simp only at h
  split at h
  · cases h
  · exact checkedCount_error h
  · split at h
    · exact checkedCount_error h
    · cases h
      rfl
  · split at h
    · cases h
    · split at h
      · exact checkedCount_error h
      · cases h
        rfl
  · cases h
    rfl

/-- A catalog file is refused as such. -/
theorem readPath_error (h : readPath setting given = .error fault) :
    fault = .configValue setting := by
  unfold readPath at h
  simp only at h
  split at h
  · cases h
  · cases h
  · cases h
    rfl

/-- A flag is refused as such. -/
theorem readFlag_error (h : readFlag setting given = .error fault) :
    fault = .configValue setting := by
  unfold readFlag at h
  simp only at h
  split at h
  · cases h
  · split_ifs at h
    cases h
    rfl
  · split_ifs at h
    cases h
    rfl
  · cases h
    rfl

/-- **How a setting refuses a value**: by name, unless no double holds it. -/
theorem readSetting_error (h : readSetting setting given = .error fault) :
    fault = .configValue setting ∨ fault = .numberTooLarge ∧ IsVast setting given := by
  have hweight : setting ∈ Setting.weights → readWeight setting given = .error fault →
      fault = .configValue setting ∨ fault = .numberTooLarge ∧ IsVast setting given := by
    intro hmem hread
    rcases readWeight_error hread with hname | ⟨hlarge, hvast⟩
    · exact Or.inl hname
    · exact Or.inr ⟨hlarge, hmem, hvast⟩
  cases setting with
  | prefixBonus | titleMultiplier | keywordMultiplier => exact hweight (by decide) h
  | limit | pageSize | debounceMs => exact Or.inl (readCount_error h)
  | catalogPath => exact Or.inl (readPath_error h)
  | includeBuiltins => exact Or.inl (readFlag_error h)

/-- A weight beyond the largest double is a fault of its own. -/
theorem readSetting_vast (h : IsVast setting given) :
    readSetting setting given = .error .numberTooLarge := by
  obtain ⟨hmem, n, rfl, hn⟩ := h
  cases setting with
  | prefixBonus | titleMultiplier | keywordMultiplier => exact readWeight_vast hn _
  | limit | pageSize | debounceMs | catalogPath | includeBuiltins =>
    exact absurd hmem (by decide)

/-! ## All values -/

/-- The setting has no value in the fields, or one that it does not refuse. -/
def Passes (fields : Fields) (setting : Setting) : Prop :=
  ∀ given, fields.get? setting.key = some given → ∃ v, readSetting setting given = .ok v

/-- A value is refused with a fault, and those before it are not. -/
def RefusedFirst (fields : Fields) (settings : List Setting) (setting : Setting) (given : Value)
    (fault : Fault) : Prop :=
  ∃ before after, settings = before ++ setting :: after ∧
    (∀ earlier ∈ before, Passes fields earlier) ∧ fields.get? setting.key = some given ∧
    readSetting setting given = .error fault

/-- A setting fails exactly when the payload has its key with a value that is refused. -/
theorem changeFrom_eq_error_iff : changeFrom fields base setting = .error fault ↔
    ∃ given, fields.get? setting.key = some given ∧ readSetting setting given = .error fault := by
  unfold changeFrom Config.change
  cases hget : fields.get? setting.key with
  | none =>
    refine ⟨nofun, ?_⟩
    rintro ⟨given, hsome, -⟩
    cases hsome
  | some given =>
    simp only
    cases hread : readSetting setting given with
    | ok v =>
      refine ⟨nofun, ?_⟩
      rintro ⟨other, ho, h⟩
      cases ho
      rw [hread] at h
      cases h
    | error reason =>
      constructor
      · intro h
        cases h
        exact ⟨given, rfl, hread⟩
      · rintro ⟨other, ho, h⟩
        cases ho
        rw [hread] at h
        cases h
        rfl

theorem passes_of_changeFrom {changed : Config} (h : changeFrom fields base setting = .ok changed) :
    Passes fields setting := by
  intro given hget
  unfold changeFrom Config.change at h
  rw [hget] at h
  cases hread : readSetting setting given with
  | ok v => exact ⟨v, rfl⟩
  | error fault =>
    simp only [hread] at h
    cases h

/-- **The first value that is refused** is the one that the whole is refused with. -/
theorem foldlM_changeFrom_eq_error_iff (settings : List Setting) : ∀ {base : Config},
    settings.foldlM (changeFrom fields) base = .error fault ↔
      ∃ setting given, RefusedFirst fields settings setting given fault := by
  induction settings with
  | nil =>
    intro base
    refine ⟨nofun, ?_⟩
    rintro ⟨setting, given, before, after, hsplit, -⟩
    exact absurd hsplit (by simp)
  | cons first rest ih =>
    intro base
    rw [List.foldlM_cons, bind_eq_error_iff]
    constructor
    · rintro (h | ⟨next, hnext, h⟩)
      · obtain ⟨given, hget, hread⟩ := changeFrom_eq_error_iff.mp h
        exact ⟨first, given, [], rest, rfl, nofun, hget, hread⟩
      · obtain ⟨setting, given, before, after, rfl, hbefore, hrefused⟩ := ih.mp h
        refine ⟨setting, given, first :: before, after, rfl, ?_, hrefused⟩
        exact List.forall_mem_cons.mpr ⟨passes_of_changeFrom hnext, hbefore⟩
    · rintro ⟨setting, given, before, after, hsplit, hbefore, hget, hread⟩
      cases before with
      | nil =>
        cases hsplit
        exact Or.inl (changeFrom_eq_error_iff.mpr ⟨given, hget, hread⟩)
      | cons head before =>
        cases hsplit
        obtain ⟨hfirst, hbefore⟩ := List.forall_mem_cons.mp hbefore
        -- the first setting is passed over, so the refusal is one of the rest
        cases hnext : changeFrom fields base first with
        | error reason =>
          obtain ⟨other, ho, hrefused⟩ := changeFrom_eq_error_iff.mp hnext
          obtain ⟨v, hv⟩ := hfirst other ho
          rw [hv] at hrefused
          cases hrefused
        | ok next =>
          exact Or.inr
            ⟨next, rfl, ih.mpr ⟨setting, given, before, after, rfl, hbefore, hget, hread⟩⟩

/-- The first value in the fields that is refused is a whole number beyond every double. -/
def Overflows (fields : Fields) : Prop :=
  ∃ setting given, RefusedFirst fields Setting.all setting given .numberTooLarge

/-- Fields make a configuration, or are refused by the name of a setting, or overflow. -/
theorem changeAll_cases (base : Config) (fields : Fields) :
    (∃ changed, base.changeAll fields = .ok changed) ∨
    (∃ setting, base.changeAll fields = .error (.configValue setting)) ∨
    Overflows fields ∧ base.changeAll fields = .error .numberTooLarge := by
  cases h : base.changeAll fields with
  | ok changed => exact Or.inl ⟨changed, rfl⟩
  | error fault =>
    refine Or.inr ?_
    obtain ⟨setting, given, hfirst⟩ := (foldlM_changeFrom_eq_error_iff Setting.all).mp h
    obtain ⟨before, after, -, -, -, hread⟩ := id hfirst
    rcases readSetting_error hread with rfl | ⟨rfl, -⟩
    · exact Or.inl ⟨setting, rfl⟩
    · exact Or.inr ⟨⟨setting, given, hfirst⟩, rfl⟩

/-- A payload whose settings pass up to such a weight ends with its fault. -/
theorem changeAll_of_overflows (base : Config) (h : Overflows fields) :
    base.changeAll fields = .error .numberTooLarge :=
  (foldlM_changeFrom_eq_error_iff Setting.all).mpr h

/-- What is no payload is refused. -/
theorem payloadFields_error {payload : Value} (h : payloadFields payload = .error fault) :
    fault.isRejection = true := by
  unfold payloadFields at h
  split at h
  · cases h
  · split at h
    · cases h
    · cases h
      rfl
    · cases h
      rfl
  · cases h
    rfl

end Config

namespace Request

open Config

variable {overrides : Fields}

/-- A limit that is put over the settings gives no other setting a value. -/
theorem get?_limitOverride {top : Value} {setting : Setting}
    (h : limitOverride top = .ok overrides) (hne : setting ≠ .limit) :
    overrides.get? setting.key = none := by
  unfold limitOverride at h
  split at h
  · cases h
    rfl
  · cases hpositive : asRequest (top.positive "top") with
    | error fault => rw [hpositive] at h; cases h
    | ok number =>
      rw [hpositive] at h
      cases h
      have hkey : Setting.limit.key ≠ setting.key := fun heq => hne (key_injective heq.symm)
      simp [Fields.get?, hkey]

theorem not_overflows_limitOverride {top : Value} (h : limitOverride top = .ok overrides) :
    ¬Overflows overrides := by
  rintro ⟨setting, given, before, after, -, -, hget, hread⟩
  rcases readSetting_error hread with hname | ⟨-, hmem, -⟩
  · cases hname
  · -- only a weight overflows, and the limit is none
    have hne : setting ≠ .limit := by
      rintro rfl
      exact absurd hmem (by decide)
    rw [get?_limitOverride h hne] at hget
    cases hget

/-- A payload overflows if it has fields and they do. -/
def Overflowing (payload : Value) : Prop :=
  ∃ fields, payloadFields (payloadOf payload) = .ok fields ∧ Overflows fields

variable {machine : Machine} {payload : Value} {fields : Fields} {fault : Fault}

/-- A payload that is an object is applied before the overrides. -/
theorem resolveConfig_of_fields (hfields : payloadFields (payloadOf payload) = .ok fields) :
    resolveConfig machine (.standard payload) overrides = asRequest (do
      let changed ← Config.standard.changeAll fields
      changed.changeAll overrides) := by
  show asRequest (Config.ofPayload Config.standard (payloadOf payload) >>= _) = _
  rw [Config.ofPayload, hfields]
  rfl

/-- A payload that is none is refused as a request. -/
theorem resolveConfig_of_noFields (hfields : payloadFields (payloadOf payload) = .error fault) :
    resolveConfig machine (.standard payload) overrides = .error (.request fault) := by
  show asRequest (Config.ofPayload Config.standard (payloadOf payload) >>= _) = _
  rw [Config.ofPayload, hfields]
  show Except.error (if fault.isRejection then Fault.request fault else fault) = _
  rw [if_pos (payloadFields_error hfields)]

/-- A payload with such a weight ends with a fault that is no refusal. -/
theorem resolveConfig_of_overflowing (h : Overflowing payload) :
    resolveConfig machine (.standard payload) overrides = .error .numberTooLarge := by
  obtain ⟨fields, hfields, hoverflows⟩ := h
  rw [resolveConfig_of_fields hfields, changeAll_of_overflows _ hoverflows]
  rfl

/-- A payload that does not overflow is made a valid configuration or refused as a request. -/
theorem resolveConfig_of_not_overflowing {top : Value} (hover : limitOverride top = .ok overrides)
    (hno : ¬Overflowing payload) :
    (∃ config, resolveConfig machine (.standard payload) overrides = .ok config ∧ config.Valid) ∨
    ∃ reason, reason.isRejection = true ∧
      resolveConfig machine (.standard payload) overrides = .error (.request reason) := by
  cases hfields : payloadFields (payloadOf payload) with
  | error fault =>
    exact Or.inr ⟨fault, payloadFields_error hfields, resolveConfig_of_noFields hfields⟩
  | ok fields =>
    rw [resolveConfig_of_fields hfields]
    rcases changeAll_cases Config.standard fields with
      ⟨changed, hchanged⟩ | ⟨setting, hrefused⟩ | ⟨hyes, -⟩
    · -- the fields are taken, and then the limit is
      have hvalid : changed.Valid := valid_standard.changeAll hchanged
      rw [hchanged]
      show (∃ config, asRequest (changed.changeAll overrides) = .ok config ∧ config.Valid) ∨
        ∃ reason, reason.isRejection = true ∧
          asRequest (changed.changeAll overrides) = .error (.request reason)
      rcases changeAll_cases changed overrides with
        ⟨config, hconfig⟩ | ⟨setting, hrefused⟩ | ⟨hyes, -⟩
      · rw [hconfig]
        exact Or.inl ⟨config, rfl, hvalid.changeAll hconfig⟩
      · rw [hrefused]
        exact Or.inr ⟨.configValue setting, rfl, rfl⟩
      · exact absurd hyes (not_overflows_limitOverride hover)
    · rw [hrefused]
      exact Or.inr ⟨.configValue setting, rfl, rfl⟩
    · exact absurd ⟨fields, hfields, hyes⟩ hno

/-- **A payload for the standard configuration is made a valid configuration or refused as a
request**, except exactly if the first value in it that is refused is a whole number for a weight
that no double holds; then the fault is that of the number. This is so for every payload, with a
limit put over it or without. -/
theorem resolveConfig_refusal_iff {top : Value} (hover : limitOverride top = .ok overrides)
    (machine : Machine) (payload : Value) :
    let resolved := resolveConfig machine (.standard payload) overrides
    ((∃ config, resolved = .ok config ∧ config.Valid) ∨
        (∃ reason, reason.isRejection = true ∧ resolved = .error (.request reason)) ↔
      ¬Overflowing payload) ∧
    (Overflowing payload → resolved = .error .numberTooLarge) := by
  intro resolved
  refine ⟨⟨?_, resolveConfig_of_not_overflowing hover⟩, resolveConfig_of_overflowing⟩
  intro hresolved hyes
  have hlarge : resolved = .error .numberTooLarge := resolveConfig_of_overflowing hyes
  rw [hlarge] at hresolved
  rcases hresolved with ⟨config, hok, -⟩ | ⟨reason, -, hrequest⟩
  · cases hok
  · cases hrequest

/-- A payload that asks for no results is refused as a request. -/
theorem noResults_refused :
    limitOverride .null = .ok [] ∧ ∃ reason, reason.isRejection = true ∧
      resolveConfig bareMachine (.standard (.object [("limit", .int 0)])) []
        = .error (.request reason) := by
  have hover : limitOverride .null = .ok [] := rfl
  have hrefused : resolveConfig bareMachine (.standard (.object [("limit", .int 0)])) []
      = .error (.request (.configValue .limit)) := by rfl
  have hno : ¬Overflowing (.object [("limit", .int 0)]) := by
    intro hyes
    have hlarge :=
      (resolveConfig_refusal_iff hover bareMachine (.object [("limit", .int 0)])).2 hyes
    rw [hrefused] at hlarge
    cases hlarge
  refine ⟨hover, ?_⟩
  rcases (resolveConfig_refusal_iff hover bareMachine (.object [("limit", .int 0)])).1.mpr hno with
    ⟨config, hok, -⟩ | hrequest
  · rw [hrefused] at hok
    cases hok
  · exact hrequest

/-- A whole number beyond every double is neither taken as a weight nor refused as a request. -/
theorem resolveConfig_of_vast {n : Int} (hn : 2 ^ 1024 - 2 ^ 970 ≤ |n|) (machine : Machine) :
    resolveConfig machine (.standard (.object [("prefix_bonus", .int n)])) []
      = .error .numberTooLarge := by
  have hvast : IsVast .prefixBonus (.int n) := ⟨by decide, n, rfl, hn⟩
  have hoverflows : Overflows [("prefix_bonus", .int n)] :=
    ⟨.prefixBonus, .int n, [], _, rfl, nofun, rfl, readSetting_vast hvast⟩
  exact resolveConfig_of_overflowing ⟨_, rfl, hoverflows⟩

theorem largest_le_pow : (2 : Int) ^ 1024 - 2 ^ 970 ≤ |(10 : Int) ^ 400| := by
  calc (2 : Int) ^ 1024 - 2 ^ 970
      ≤ 2 ^ 1024 := sub_le_self _ (by positivity)
    _ ≤ 2 ^ (3 * 400) := pow_le_pow_right₀ (by norm_num) (by norm_num)
    _ = (2 ^ 3) ^ 400 := pow_mul 2 3 400
    _ ≤ 10 ^ 400 := pow_le_pow_left₀ (by norm_num) (by norm_num) 400
    _ = |10 ^ 400| := (abs_of_nonneg (by positivity)).symm

/-- A weight of 401 digits is one. -/
theorem vastWeight_not_refused :
    ¬((∃ config, resolveConfig bareMachine
          (.standard (.object [("prefix_bonus", .int (10 ^ 400))])) [] = .ok config) ∨
      ∃ reason, resolveConfig bareMachine
          (.standard (.object [("prefix_bonus", .int (10 ^ 400))])) []
            = .error (.request reason)) := by
  rw [resolveConfig_of_vast largest_le_pow]
  rintro (⟨config, hok⟩ | ⟨reason, hrequest⟩)
  · cases hok
  · cases hrequest

end Request

end Launcher
