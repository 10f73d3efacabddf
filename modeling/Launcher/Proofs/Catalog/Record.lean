import Launcher.Catalog.Record
import Launcher.Proofs.Decimal.Nearest

/-!
# What a record can be refused for

`Entry.ofRecord` reads the fields of a record one after the other. Each of them that is refused is
refused with a fault of the catalog, which leaves out that one record. The only other end is a base
weight that is a whole number beyond the largest double: turning it into a double is a fault that
nothing on the way takes for a refusal, so it ends the reading of all records.

> `Entry.ofRecord_error_iff` a record fails with a fault outside the catalog exactly if it is
> overweight, and then the fault is that the number is too large
-/

namespace Launcher

namespace Record

variable {fields : Fields} {key s : Text} {fault : CatalogFault} {reason : Fault}

/-! ## The fields -/

/-- What a text field gives is the text under its key. -/
theorem textField_eq_ok_iff : textField fields key fault = .ok s ↔ fields.getD key = .text s := by
  unfold textField
  split
  · next t ht => rw [ht]; simp
  · next hno => exact iff_of_false nofun (hno s)

/-- A text field is refused with the fault given for it. -/
theorem textField_error (h : textField fields key fault = .error reason) :
    reason = .catalog fault := by
  unfold textField at h
  split at h
  · cases h
  · cases h; rfl

/-- The value can stand for a subtitle. -/
def IsSubtitle (given : Value) : Prop := given = .null ∨ ∃ s, given = .text s

/-- The subtitles accepted are those of `IsSubtitle`. -/
theorem subtitle_isOk_iff :
    (∃ text?, subtitle fields = .ok text?) ↔ IsSubtitle (fields.getD "subtitle") := by
  unfold subtitle IsSubtitle
  split
  · next h => exact iff_of_true ⟨none, rfl⟩ (Or.inl h)
  · next s h => exact iff_of_true ⟨_, rfl⟩ (Or.inr ⟨s, h⟩)
  · next hnull htext => exact iff_of_false nofun fun h => h.elim hnull fun ⟨s, h⟩ => htext s h

theorem subtitle_error (h : subtitle fields = .error reason) :
    reason = .catalog (.invalid .subtitleNotText) := by
  unfold subtitle at h
  split at h
  · cases h
  · cases h
  · cases h; rfl

/-- A list of values is one of texts exactly when it is made of them. -/
theorem texts?_eq_some_iff {items : List Value} {words : List Text} :
    texts? items = some words ↔ items = words.map .text := by
  fun_induction texts? items generalizing words with
  | case1 => cases words <;> simp
  | case2 s rest ih => cases words <;> simp [ih, and_comm]
  | case3 given rest hno =>
    cases words with
    | nil => simp
    | cons word words => simpa using fun h => absurd h (hno word)

/-- The value can stand for keywords: it counts as false, or it is a list of texts or an object. -/
def IsKeywords (given : Value) : Prop :=
  given.isTrue = false ∨ (∃ words : List Text, given = .list (words.map .text)) ∨
    ∃ fields, given = .object fields

/-- Keywords are accepted as a list of texts, or as an object, whose keys they are then. -/
theorem keywordsOf_isOk_iff {given : Value} :
    (∃ words, keywordsOf given = .ok words) ↔
      (∃ words : List Text, given = .list (words.map .text)) ∨
        ∃ fields, given = .object fields := by
  unfold keywordsOf
  cases given with
  | list items =>
    simp only [Value.items?]
    split
    · next h =>
      refine iff_of_false nofun ?_
      rintro (⟨words, hw⟩ | ⟨fields, hf⟩)
      · cases hw
        rw [texts?_eq_some_iff.mpr rfl] at h
        cases h
      · cases hf
    · next words h =>
      exact iff_of_true ⟨words, rfl⟩ (Or.inl ⟨words, by rw [texts?_eq_some_iff.mp h]⟩)
  | object fields =>
    have h : texts? (fields.map fun kv => .text kv.1) = some (fields.map (·.1)) :=
      texts?_eq_some_iff.mpr (by simp)
    simp only [Value.items?, h]
    exact iff_of_true ⟨_, rfl⟩ (Or.inr ⟨fields, rfl⟩)
  | null => simp [Value.items?]
  | bool b => simp [Value.items?]
  | int n => simp [Value.items?]
  | float x => simp [Value.items?]
  | text s => simp [Value.items?]

/-- Keywords are refused as part of a record. -/
theorem keywordsOf_error {given : Value} (h : keywordsOf given = .error reason) :
    ∃ fault, reason = .catalog fault := by
  unfold keywordsOf at h
  split at h
  · cases h; exact ⟨_, rfl⟩
  · split at h
    · cases h; exact ⟨_, rfl⟩
    · cases h

/-- The keywords accepted are those of `IsKeywords`. -/
theorem keywords_isOk_iff :
    (∃ words, keywords fields = .ok words) ↔ IsKeywords (fields.getD "keywords") := by
  unfold keywords IsKeywords
  simp only
  split
  · next h =>
    rw [h, ← keywordsOf_isOk_iff]
    cases keywordsOf (fields.getD "keywords") with
    | error reason => simp [Except.map]
    | ok words => simp [Except.map]
  · next h => exact iff_of_true ⟨[], rfl⟩ (Or.inl (by simpa using h))

theorem keywords_error (h : keywords fields = .error reason) :
    ∃ fault, reason = .catalog fault := by
  unfold keywords at h
  simp only at h
  split at h
  · cases hwords : keywordsOf (fields.getD "keywords") with
    | error why =>
      rw [hwords] at h
      cases h
      exact keywordsOf_error hwords
    | ok words => rw [hwords] at h; cases h
  · cases h

/-- A kind is refused as part of a record. -/
theorem kind_error (h : kind fields = .error reason) : ∃ fault, reason = .catalog fault := by
  unfold kind at h
  split at h
  · cases h
  · split at h
    · cases h
    · cases h; exact ⟨_, rfl⟩
  · cases h; exact ⟨_, rfl⟩

/-- The kind that is given from outside, otherwise the one of the record. -/
def kindOr (kind? : Option Kind) (fields : Fields) : Except Fault Kind :=
  match kind? with
  | some kind => .ok kind
  | none => Record.kind fields

theorem kindOr_error {kind? : Option Kind} (h : kindOr kind? fields = .error reason) :
    ∃ fault, reason = .catalog fault := by
  cases kind? with
  | none => exact kind_error h
  | some kind => cases h

/-- The base weight is a whole number beyond the largest double. -/
def HasHugeWeight (fields : Fields) : Prop :=
  ∃ n, fields.get? "base_weight" = some (.int n) ∧ 2 ^ 1024 - 2 ^ 970 ≤ |n|

/-- A weight is refused as part of a record, unless it is a whole number beyond the largest double.
-/
theorem weight_error (h : weight fields = .error reason) :
    (∃ fault, reason = .catalog fault) ∨ reason = .numberTooLarge ∧ HasHugeWeight fields := by
  unfold weight at h
  split at h
  · cases h
  · next n hn =>
    split at h
    · cases h
    · next hnone => cases h; exact Or.inr ⟨rfl, n, hn, (Decimal.ofInt?_eq_none_iff n).mp hnone⟩
  · cases h
  · cases h; exact Or.inl ⟨_, rfl⟩

/-- A whole number beyond the largest double is no refusal of the record. -/
theorem weight_of_huge (h : HasHugeWeight fields) : weight fields = .error .numberTooLarge := by
  obtain ⟨n, hn, hlarge⟩ := h
  unfold weight
  rw [hn]
  simp only
  rw [(Decimal.ofInt?_eq_none_iff n).mpr hlarge]

/-! ## The record -/

/-- The fields up to the base weight can be read, and the base weight is beyond the largest
double. -/
structure Overweight (fields : Fields) : Prop where
  id : ∃ s, fields.getD "id" = .text s
  title : ∃ s, fields.getD "title" = .text s
  subtitle : IsSubtitle (fields.getD "subtitle")
  keywords : IsKeywords (fields.getD "keywords")
  weight : HasHugeWeight fields

end Record

open Record

namespace Entry

variable {kind? : Option Kind} {fields : Fields} {reason : Fault}

/-- The checks of an entry after all its fields have been read. -/
def checked (entry : Entry) : Except Fault Entry :=
  if entry.id.isEmpty then .error (.catalog .emptyId)
  else if Text.isBlankText entry.title then .error (.catalog .emptyTitle)
  else if isWeight entry.baseWeight then .ok entry
  else .error (.catalog (.weight (.float entry.baseWeight)))

/-- A record is read field by field, and checked at the end. -/
theorem ofFields_eq (kind? : Option Kind) (fields : Fields) :
    ofFields kind? fields = (do
      let id ← textField fields "id" .emptyId
      let title ← textField fields "title" .emptyTitle
      let subtitle ← Record.subtitle fields
      let keywords ← Record.keywords fields
      let baseWeight ← Record.weight fields
      let kind ← Record.kindOr kind? fields
      checked
        { id, title, subtitle, keywords, action := fields.getD "action", baseWeight, kind }) := by
  have hend : ∀ entry : Entry, checked entry = (do
      if entry.id.isEmpty then .error (.catalog .emptyId)
      if Text.isBlankText entry.title then .error (.catalog .emptyTitle)
      let weight ← checkWeight (.float entry.baseWeight) entry.baseWeight
      .ok { entry with baseWeight := weight }) := by
    intro entry
    unfold checked checkWeight
    split
    · rfl
    · split
      · rfl
      · split
        · rfl
        · rfl
  unfold ofFields
  refine bind_congr fun id => bind_congr fun title => bind_congr fun subtitle =>
    bind_congr fun keywords => bind_congr fun weight => ?_
  have hchecked := fun kind =>
    (hend ⟨id, title, subtitle, keywords, fields.getD "action", weight, kind⟩).symm
  cases kind? with
  | some kind => exact hchecked kind
  | none => exact bind_congr hchecked

/-- The last check refuses the record. -/
theorem checked_error {entry : Entry} (h : checked entry = .error reason) :
    ∃ fault, reason = .catalog fault := by
  unfold checked at h
  split_ifs at h
  · cases h; exact ⟨_, rfl⟩
  · cases h; exact ⟨_, rfl⟩
  · cases h; exact ⟨_, rfl⟩

/-- A record whose fields pass up to such a weight ends with the fault of the weight. -/
theorem ofFields_of_overweight (h : Overweight fields) :
    ofFields kind? fields = .error .numberTooLarge := by
  obtain ⟨id, hid⟩ := h.id
  obtain ⟨title, htitle⟩ := h.title
  obtain ⟨subtitle, hsubtitle⟩ := subtitle_isOk_iff.mpr h.subtitle
  obtain ⟨keywords, hkeywords⟩ := keywords_isOk_iff.mpr h.keywords
  rw [ofFields_eq, textField_eq_ok_iff.mpr hid, textField_eq_ok_iff.mpr htitle, hsubtitle,
    hkeywords, weight_of_huge h.weight]
  rfl

/-- A record is refused as such, or it is one whose weight is too large for a double. -/
theorem ofFields_error (h : ofFields kind? fields = .error reason) :
    (∃ fault, reason = .catalog fault) ∨ reason = .numberTooLarge ∧ Overweight fields := by
  rw [ofFields_eq] at h
  rcases bind_eq_error_iff.mp h with h | ⟨id, hid, h⟩
  · exact Or.inl ⟨_, textField_error h⟩
  rcases bind_eq_error_iff.mp h with h | ⟨title, htitle, h⟩
  · exact Or.inl ⟨_, textField_error h⟩
  rcases bind_eq_error_iff.mp h with h | ⟨subtitle, hsubtitle, h⟩
  · exact Or.inl ⟨_, subtitle_error h⟩
  rcases bind_eq_error_iff.mp h with h | ⟨keywords, hkeywords, h⟩
  · exact Or.inl (keywords_error h)
  rcases bind_eq_error_iff.mp h with h | ⟨weight, hweight, h⟩
  · refine (weight_error h).imp_right fun ⟨hreason, hhuge⟩ => ⟨hreason, ?_⟩
    exact ⟨⟨id, textField_eq_ok_iff.mp hid⟩, ⟨title, textField_eq_ok_iff.mp htitle⟩,
      subtitle_isOk_iff.mp ⟨subtitle, hsubtitle⟩, keywords_isOk_iff.mp ⟨keywords, hkeywords⟩, hhuge⟩
  -- what stands behind the base weight is refused by faults of the catalog only
  left
  rcases bind_eq_error_iff.mp h with h | ⟨kind, -, h⟩
  · exact kindOr_error h
  · exact checked_error h

/-- The record is an object whose base weight is beyond the largest double. -/
def IsOverweight (record : Value) : Prop := ∃ fields, record = .object fields ∧ Overweight fields

/-- **How a record fails.** Outside of the faults of the catalog there is only one, and it strikes
exactly the overweight records. -/
theorem ofRecord_error_iff {record : Value} (hreason : ∀ fault, reason ≠ .catalog fault) :
    ofRecord record = .error reason ↔ reason = .numberTooLarge ∧ IsOverweight record := by
  cases record with
  | object fields =>
    show ofFields none fields = .error reason ↔ _
    constructor
    · intro h
      rcases ofFields_error h with ⟨fault, hfault⟩ | ⟨hlarge, hover⟩
      · exact absurd hfault (hreason fault)
      · exact ⟨hlarge, fields, rfl, hover⟩
    · rintro ⟨rfl, other, hsame, hover⟩
      cases hsame
      exact ofFields_of_overweight hover
  | _ =>
    refine iff_of_false (fun h => ?_) (fun ⟨_, _, h, _⟩ => nomatch h)
    cases h
    exact hreason _ rfl

/-- A record whose fields pass up to such a weight ends with its fault, given as a value, too. -/
theorem ofRecord_of_isOverweight {record : Value} (h : IsOverweight record) :
    ofRecord record = .error .numberTooLarge :=
  (ofRecord_error_iff (by intro fault hsame; cases hsame)).mpr ⟨rfl, h⟩

end Entry

end Launcher
