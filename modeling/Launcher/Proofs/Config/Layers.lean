import Launcher.Proofs.Config.Effect
import Launcher.Proofs.Config.Payload
import Launcher.Proofs.Json.DistinctKeys

/-!
# Payloads in layers

A payload that is applied to what another one has made of a configuration can be put into that other
one first. The two ways go through different configurations, but what a setting gets in the end is
the same in both: what it makes of the value that the second payload has for it, else of the value
that the first one has, else the value that it had (`outcome_update`). That decides all that fields
do to a configuration, also how they are refused (`changeAll_eq_of_outcome`):

> **`ofPayload_layered`**: applying one payload after another is applying the first with the second
> put into it; and where the second one has null, its setting gets the value that it has by itself.
-/

namespace Launcher

namespace Fields

variable {fields extra : Fields} {key : Text}

theorem get?_cons (kv : Text × Value) (rest : Fields) (key : Text) :
    get? (kv :: rest) key = if kv.1 = key then some kv.2 else rest.get? key := by
  by_cases h : kv.1 = key
  · simp [get?, h]
  · simp [get?, h]

theorem get?_eq_none_of_not_mem (h : key ∉ keys fields) : fields.get? key = none := by
  induction fields with
  | nil => rfl
  | cons kv rest ih =>
    rw [keys, List.map_cons, List.mem_cons, not_or] at h
    rw [get?_cons, if_neg (Ne.symm h.1), ih h.2]

/-- An object that is put into another one comes first when a key is looked up. -/
theorem get?_update (h : (keys extra).Nodup) (fields : Fields) (key : Text) :
    (fields.update extra).get? key = (extra.get? key).or (fields.get? key) := by
  induction extra generalizing fields with
  | nil => rfl
  | cons kv rest ih =>
    obtain ⟨hnew, hrest⟩ := List.nodup_cons.mp h
    show (update (put kv.1 kv.2 fields) rest).get? key = _
    rw [ih hrest, get?_cons]
    by_cases hkey : kv.1 = key
    · -- the key does not occur again, so the value just put is there to the end
      rw [if_pos hkey, ← hkey, get?_eq_none_of_not_mem hnew, get?_put_self]
      rfl
    · rw [if_neg hkey, get?_put_of_ne hkey]

end Fields

namespace Config

variable {setting : Setting} {fields others first second : Fields}
  {base other middle config : Config} {fault : Fault} {v : Value}

/-! ## What is decided setting by setting -/

/-- A setting passes exactly when it has an outcome. -/
theorem passes_iff : Passes fields setting ↔ ∃ v, outcome fields base setting = .ok v := by
  unfold Passes outcome
  cases fields.get? setting.key with
  | none => exact iff_of_true nofun ⟨_, rfl⟩
  | some given =>
    constructor
    · intro h
      exact h given rfl
    · rintro ⟨v, hv⟩ other ho
      cases ho
      exact ⟨v, hv⟩

/-- A setting has no outcome exactly when the value under its key is refused. -/
theorem outcome_eq_error_iff : outcome fields base setting = .error fault ↔
    ∃ given, fields.get? setting.key = some given ∧ readSetting setting given = .error fault := by
  unfold outcome
  cases fields.get? setting.key with
  | none => exact ⟨nofun, fun ⟨given, hget, _⟩ => nomatch hget⟩
  | some given =>
    constructor
    · intro h
      exact ⟨given, rfl, h⟩
    · rintro ⟨other, ho, h⟩
      cases ho
      exact h

/-- Fields are refused with what they are refused with by the first setting that refuses its value.
-/
theorem changeAll_eq_error_iff : base.changeAll fields = .error fault ↔
    ∃ before setting after, Setting.all = before ++ setting :: after ∧
      (∀ earlier ∈ before, ∃ v, outcome fields base earlier = .ok v) ∧
      outcome fields base setting = .error fault := by
  unfold changeAll
  rw [foldlM_changeFrom_eq_error_iff]
  constructor
  · rintro ⟨setting, given, before, after, hsplit, hbefore, hget, hread⟩
    exact ⟨before, setting, after, hsplit, fun earlier hmem => passes_iff.mp (hbefore earlier hmem),
      outcome_eq_error_iff.mpr ⟨given, hget, hread⟩⟩
  · rintro ⟨before, setting, after, hsplit, hbefore, hrefused⟩
    obtain ⟨given, hget, hread⟩ := outcome_eq_error_iff.mp hrefused
    exact ⟨setting, given, before, after, hsplit,
      fun earlier hmem => passes_iff.mpr (hbefore earlier hmem), hget, hread⟩

/-- What fields make of a configuration depends on what they make of each setting, and so does the
fault with which they are refused. -/
theorem changeAll_eq_of_outcome
    (h : ∀ setting, outcome fields base setting = outcome others other setting) :
    base.changeAll fields = other.changeAll others := by
  symm
  cases hchange : base.changeAll fields with
  | ok changed =>
    rw [changeAll_eq_ok_iff] at hchange ⊢
    intro setting
    rw [← h]
    exact hchange setting
  | error fault =>
    rw [changeAll_eq_error_iff] at hchange ⊢
    simp only [← h]
    exact hchange

/-! ## Two payloads -/

/-- What two payloads in turn make of a setting. -/
theorem outcome_update (hdistinct : (Fields.keys second).Nodup)
    (hfirst : base.changeAll first = .ok middle) (setting : Setting) :
    outcome second middle setting = outcome (first.update second) base setting := by
  have hmiddle := changeAll_eq_ok_iff.mp hfirst setting
  unfold outcome at hmiddle ⊢
  rw [Fields.get?_update hdistinct]
  cases second.get? setting.key with
  | some given => rfl
  | none => exact hmiddle.symm

/-- Null gives a setting the value that it has by itself, if it is taken. -/
theorem readSetting_null (h : readSetting setting .null = .ok v) : v = standard.value setting := by
  cases setting with
  | prefixBonus | titleMultiplier | keywordMultiplier | limit | pageSize | debounceMs
  | catalogPath =>
    cases h
    rfl
  | includeBuiltins => cases h

/-- **Payloads in layers are one payload.** Where a payload is taken, applying another one to what
it has made is applying it with the other one put into it, which is taken or refused in the same
way; and a setting for which the other one has null ends with the value that it has by itself, not
with one of the layers below. -/
theorem ofPayload_layered (hdistinct : (Fields.keys second).Nodup)
    (hfirst : ofPayload base (.object first) = .ok middle) :
    ofPayload middle (.object second) = ofPayload base (.object (first.update second)) ∧
    ∀ config, ofPayload middle (.object second) = .ok config →
      ∀ setting : Setting, second.get? setting.key = some .null →
        config.value setting = standard.value setting := by
  constructor
  · exact changeAll_eq_of_outcome (outcome_update hdistinct hfirst)
  · intro config hconfig setting hnull
    exact readSetting_null ((value_of_ofPayload hconfig rfl).2 .null hnull)

/-- A configuration that sets some things itself. -/
def desktopConfig : Config :=
  { limit := .int 5, pageSize := .int 4, catalogPath := .text "desktop.json" }

/-- A payload that is put over the menu: it takes back the limit and the path. -/
def plainFields : Fields :=
  [("page_size", .text "9"), ("limit", .null), ("catalog_path", .text " "), ("theme", .null)]

/-- What the menu makes of that configuration. -/
def desktopMenu : Config :=
  { limit := .int 3, pageSize := .int 4, debounceMs := .int 20, catalogPath := .text "menu.json" }

/-- The two payloads in turn do what the two put together do, and the limit is that of no layer. -/
theorem plain_layered : (Fields.keys plainFields).Nodup ∧
    ofPayload desktopConfig (.object menuFields) = .ok desktopMenu ∧
    ofPayload desktopMenu (.object plainFields)
      = ofPayload desktopConfig (.object (menuFields.update plainFields)) ∧
    ∃ config, ofPayload desktopMenu (.object plainFields) = .ok config ∧
      config.value .limit = standard.value .limit := by
  have hdistinct : (Fields.keys plainFields).Nodup := by decide
  have hfirst : ofPayload desktopConfig (.object menuFields) = .ok desktopMenu := by rfl
  obtain ⟨hsame, hnull⟩ := ofPayload_layered hdistinct hfirst
  have hsecond : ofPayload desktopMenu (.object plainFields)
      = .ok { pageSize := .int 9, debounceMs := .int 20 } := by rfl
  exact ⟨hdistinct, hfirst, hsame, _, hsecond, hnull _ hsecond .limit (by rfl)⟩

end Config

end Launcher
