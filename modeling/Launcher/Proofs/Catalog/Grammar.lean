import Launcher.Proofs.Catalog.Record
import Launcher.Proofs.Decimal.UnitInterval

/-!
# The grammar of records

Which values describe an entry, and which entry they describe. Neither is said by way of the
reader: `IsRecord` lists what a record has to hold field by field, and `Describes` relates the
fields to the fields of the entry.

> **`Entry.ofRecord_grammar`** a value is accepted exactly if it is an object that is a record, and
> what comes of it is exactly the entry it describes
-/

namespace Launcher

open Launcher.Text

/-- The kind of a name. -/
theorem Kind.ofName?_eq_some_iff {name : Text} {kind : Kind} :
    Kind.ofName? name = some kind ↔ name = kind.name := by
  constructor
  · intro h
    unfold ofName? at h
    have hfound := List.find?_some h
    exact (eq_of_beq hfound).symm
  · rintro rfl
    exact ofName?_name kind

theorem isWeight_iff {x : Float} : isWeight x = true ↔ 0.0 ≤ x ∧ x ≤ 1.0 := by
  unfold isWeight
  rw [Bool.and_eq_true, decide_eq_true_iff, decide_eq_true_iff]

namespace Record

variable {fields : Fields} {given : Value} {line? : Option Text} {words : List Text}
  {x : Float} {kind : Kind}

/-! ## What the fields may hold -/

/-- A whole number or a double between zero and one; a truth value is no number here. -/
def IsWeightValue : Value → Prop
  | .int n => 0 ≤ n ∧ n ≤ 1
  | .float x => 0.0 ≤ x ∧ x ≤ 1.0
  | _ => False

/-- Null, or the name of a kind in any case and with blanks around it. -/
def IsKindValue (given : Value) : Prop :=
  given = .null ∨ ∃ s, ∃ kind : Kind, given = .text s ∧ lower (trim s) = kind.name

/-- **The fields make up a record.** -/
structure IsRecord (fields : Fields) : Prop where
  id : ∃ s, fields.getD "id" = .text s ∧ s ≠ ""
  title : ∃ s, fields.getD "title" = .text s ∧ isBlankText s = false
  subtitle : IsSubtitle (fields.getD "subtitle")
  keywords : IsKeywords (fields.getD "keywords")
  weight : ∀ given, fields.get? "base_weight" = some given → IsWeightValue given
  kind : IsKindValue (fields.getD "kind")

/-! ## What they stand for -/

/-- The subtitle of an entry is the text given, and none if no text or an empty one is given. -/
def Subtitles (given : Value) (line? : Option Text) : Prop :=
  IsSubtitle given ∧ ∀ s, line? = some s ↔ given = .text s ∧ s ≠ ""

/-- The text that a value is. -/
def text? : Value → Option Text
  | .text s => some s
  | _ => none

/-- The texts in a value, in order: those of a list, the keys of an object. -/
def wordsIn : Value → List Text
  | .list items => items.filterMap text?
  | .object fields => fields.map (·.1)
  | _ => []

/-- The keywords of an entry are the texts given that are not blank, in order. -/
def Lists (given : Value) (words : List Text) : Prop :=
  IsKeywords given ∧ words = (wordsIn given).filter fun word => !isBlankText word

/-- The double that a base weight is: the one given, the nearest to the whole number given, and the
default if none is given. -/
def Weighs (given? : Option Value) (x : Float) : Prop :=
  match given? with
  | none => x = defaultBaseWeight
  | some (.int n) => Decimal.ofInt? n = some x
  | some (.float y) => x = y
  | some _ => False

/-- The kind of an entry is the one named, and an action if none is named. -/
def Names (given : Value) (kind : Kind) : Prop :=
  (given = .null ∧ kind = .action) ∨ ∃ s, given = .text s ∧ lower (trim s) = kind.name

/-- **The fields describe the entry.** -/
structure Describes (fields : Fields) (entry : Entry) : Prop where
  id : fields.getD "id" = .text entry.id
  id_ne : entry.id ≠ ""
  title : fields.getD "title" = .text entry.title
  title_not_blank : isBlankText entry.title = false
  subtitle : Subtitles (fields.getD "subtitle") entry.subtitle
  keywords : Lists (fields.getD "keywords") entry.keywords
  action : entry.action = fields.getD "action"
  weight : Weighs (fields.get? "base_weight") entry.baseWeight
  weight_isNumber : entry.baseWeight.isNaN = false
  weight_between : 0.0 ≤ entry.baseWeight ∧ entry.baseWeight ≤ 1.0
  kind : Names (fields.getD "kind") entry.kind

/-! ## The readers of the fields -/

/-- What is accepted as a subtitle, and what becomes of it. -/
theorem subtitle_eq_ok_iff :
    subtitle fields = .ok line? ↔ Subtitles (fields.getD "subtitle") line? := by
  unfold subtitle Subtitles IsSubtitle
  cases fields.getD "subtitle" with
  | null => cases line? <;> simp
  | text s =>
    by_cases hs : s = ""
    · subst hs
      cases line? <;> simp
    · cases line? with
      | none => simp
      | some t =>
        have hempty : s.isEmpty = false := List.isEmpty_eq_false_iff.mpr hs
        simp only [hempty]
        constructor
        · intro h
          cases h
          exact ⟨Or.inr ⟨s, rfl⟩, fun t => by simpa using fun h => h ▸ hs⟩
        · rintro ⟨-, h⟩
          rw [(h s).mpr ⟨rfl, hs⟩]
          rfl
  | _ => simp

theorem wordsIn_of_texts : wordsIn (.list (words.map .text)) = words := by
  show (words.map .text).filterMap text? = words
  rw [List.filterMap_map]
  exact List.filterMap_some

/-- The keywords that a value gives are the texts in it. -/
theorem keywordsOf_eq (h : keywordsOf given = .ok words) : words = wordsIn given := by
  unfold keywordsOf at h
  cases given with
  | list items =>
    simp only [Value.items?] at h
    split at h
    · cases h
    · next found hfound =>
      cases h
      rw [texts?_eq_some_iff.mp hfound, wordsIn_of_texts]
  | object fields =>
    have hkeys : texts? (fields.map fun kv => .text kv.1) = some (fields.map (·.1)) :=
      texts?_eq_some_iff.mpr (by simp)
    simp only [Value.items?, hkeys] at h
    cases h
    rfl
  | _ => cases h

theorem wordsIn_of_not_isTrue (h : given.isTrue = false) : wordsIn given = [] := by
  cases given with
  | list items =>
    obtain rfl : items = [] := by simpa [Value.isTrue] using h
    rfl
  | object fields =>
    obtain rfl : fields = [] := by simpa [Value.isTrue] using h
    rfl
  | _ => rfl

/-- What is accepted as keywords, and which of them are kept. -/
theorem keywords_eq_ok_iff :
    keywords fields = .ok words ↔ Lists (fields.getD "keywords") words := by
  -- what counts as false is never looked into, but there are no texts in it either
  have hsound : ∀ found, keywords fields = .ok found →
      found = (wordsIn (fields.getD "keywords")).filter fun word => !isBlankText word := by
    intro found h
    unfold keywords at h
    simp only at h
    split at h
    · cases hwords : keywordsOf (fields.getD "keywords") with
      | error reason => rw [hwords] at h; cases h
      | ok words =>
        rw [hwords] at h
        cases h
        rw [keywordsOf_eq hwords]
    · next hfalse =>
      cases h
      rw [wordsIn_of_not_isTrue (by simpa using hfalse)]
      rfl
  unfold Lists
  rw [← keywords_isOk_iff]
  constructor
  · intro h
    exact ⟨⟨words, h⟩, hsound words h⟩
  · rintro ⟨⟨found, hfound⟩, hwords⟩
    rw [hwords, ← hsound found hfound]
    exact hfound

/-- What is accepted as a base weight, and the double that it stands for. -/
theorem weight_eq_ok_iff : weight fields = .ok x ↔ Weighs (fields.get? "base_weight") x := by
  unfold weight Weighs
  cases fields.get? "base_weight" with
  | none => simp [eq_comm]
  | some given =>
    cases given with
    | int n => cases h : Decimal.ofInt? n <;> simp [h]
    | float y => simp [eq_comm]
    | _ => simp

/-- What is accepted as the name of a kind. -/
theorem kind_eq_ok_iff : Record.kind fields = .ok kind ↔ Names (fields.getD "kind") kind := by
  unfold Record.kind Names
  cases fields.getD "kind" with
  | null => simp [eq_comm]
  | text s =>
    have hname := @Kind.ofName?_eq_some_iff (lower (trim s)) kind
    cases hfound : Kind.ofName? (lower (trim s)) with
    | none => simpa [hfound] using hname
    | some found => simpa [hfound] using hname
  | _ => simp

end Record

/-! ## Records -/

open Record

namespace Entry

/-- The last check changes nothing in an entry that passes it. -/
theorem checked_eq_ok_iff {draft entry : Entry} :
    checked draft = .ok entry ↔ draft = entry ∧ entry.id ≠ "" ∧
      isBlankText entry.title = false ∧ 0.0 ≤ entry.baseWeight ∧ entry.baseWeight ≤ 1.0 := by
  unfold checked
  rw [← isWeight_iff]
  constructor
  · intro h
    split_ifs at h with hid htitle hweight
    cases h
    exact ⟨rfl, by simpa using hid, by simpa using htitle, hweight⟩
  · rintro ⟨rfl, hid, htitle, hweight⟩
    rw [if_neg (by simpa using hid), if_neg (by simp [htitle]), if_pos hweight]

/-- What is read from the fields is the entry they describe, and nothing else. -/
theorem ofFields_eq_ok_iff {fields : Fields} {entry : Entry} :
    ofFields none fields = .ok entry ↔ Describes fields entry := by
  rw [ofFields_eq]
  constructor
  · intro h
    obtain ⟨id, hid, h⟩ := exists_of_bind_eq_ok h
    obtain ⟨title, htitle, h⟩ := exists_of_bind_eq_ok h
    obtain ⟨subtitle, hsubtitle, h⟩ := exists_of_bind_eq_ok h
    obtain ⟨keywords, hkeywords, h⟩ := exists_of_bind_eq_ok h
    obtain ⟨baseWeight, hweight, h⟩ := exists_of_bind_eq_ok h
    obtain ⟨kind, hkind, h⟩ := exists_of_bind_eq_ok h
    obtain ⟨rfl, hne, hnotBlank, hbetween⟩ := checked_eq_ok_iff.mp h
    exact
      { id := textField_eq_ok_iff.mp hid
        id_ne := hne
        title := textField_eq_ok_iff.mp htitle
        title_not_blank := hnotBlank
        subtitle := subtitle_eq_ok_iff.mp hsubtitle
        keywords := keywords_eq_ok_iff.mp hkeywords
        action := rfl
        weight := weight_eq_ok_iff.mp hweight
        weight_isNumber := Decimal.isNaN_of_between hbetween
        weight_between := hbetween
        kind := kind_eq_ok_iff.mp hkind }
  · intro h
    rw [textField_eq_ok_iff.mpr h.id, textField_eq_ok_iff.mpr h.title,
      subtitle_eq_ok_iff.mpr h.subtitle, keywords_eq_ok_iff.mpr h.keywords,
      weight_eq_ok_iff.mpr h.weight]
    show Record.kind fields >>= _ = _
    rw [kind_eq_ok_iff.mpr h.kind, ← h.action]
    exact checked_eq_ok_iff.mpr ⟨rfl, h.id_ne, h.title_not_blank, h.weight_between⟩

end Entry

namespace Record

/-- A value of a weight in range has a double, and it is in range. -/
theorem exists_weighs_iff {given? : Option Value} :
    (∃ x, Weighs given? x ∧ 0.0 ≤ x ∧ x ≤ 1.0) ↔
      ∀ given, given? = some given → IsWeightValue given := by
  cases given? with
  | none =>
    refine iff_of_true ⟨defaultBaseWeight, rfl, ?_⟩ nofun
    rw [← isWeight_iff]
    decide
  | some given =>
    cases given with
    | int n =>
      have hsmall : 0 ≤ n ∧ n ≤ 1 → ∃ x, Decimal.ofInt? n = some x := by
        rintro ⟨hlow, hhigh⟩
        rw [← Option.isSome_iff_exists]
        obtain rfl | rfl : n = 0 ∨ n = 1 := by omega
        · decide
        · decide
      simp only [Weighs, IsWeightValue, Option.some.injEq, forall_eq']
      constructor
      · rintro ⟨x, hx, hbetween⟩
        exact (Decimal.between_ofInt?_iff hx).mp hbetween
      · intro h
        obtain ⟨x, hx⟩ := hsmall h
        exact ⟨x, hx, (Decimal.between_ofInt?_iff hx).mpr h⟩
    | float y => simp [Weighs, IsWeightValue]
    | _ => simp [Weighs, IsWeightValue]

/-- The fields that describe an entry are the records. -/
theorem exists_describes_iff {fields : Fields} :
    (∃ entry, Describes fields entry) ↔ IsRecord fields := by
  constructor
  · rintro ⟨entry, h⟩
    refine ⟨⟨_, h.id, h.id_ne⟩, ⟨_, h.title, h.title_not_blank⟩, h.subtitle.1, h.keywords.1,
      exists_weighs_iff.mp ⟨_, h.weight, h.weight_between⟩, ?_⟩
    rcases h.kind with ⟨hnull, -⟩ | ⟨s, hs, hname⟩
    · exact Or.inl hnull
    · exact Or.inr ⟨s, _, hs, hname⟩
  · intro h
    obtain ⟨id, hid, hne⟩ := h.id
    obtain ⟨title, htitle, hnotBlank⟩ := h.title
    obtain ⟨subtitle, hsubtitle⟩ := subtitle_isOk_iff.mpr h.subtitle
    obtain ⟨x, hweight, hbetween⟩ := exists_weighs_iff.mpr h.weight
    have hkind : ∃ kind, Names (fields.getD "kind") kind := by
      rcases h.kind with hnull | ⟨s, kind, hs, hname⟩
      · exact ⟨.action, Or.inl ⟨hnull, rfl⟩⟩
      · exact ⟨kind, Or.inr ⟨s, hs, hname⟩⟩
    obtain ⟨kind, hkind⟩ := hkind
    exact ⟨{ id, title, subtitle, keywords := _, action := _, baseWeight := x, kind },
      { id := hid
        id_ne := hne
        title := htitle
        title_not_blank := hnotBlank
        subtitle := subtitle_eq_ok_iff.mp hsubtitle
        keywords := ⟨h.keywords, rfl⟩
        action := rfl
        weight := hweight
        weight_isNumber := Decimal.isNaN_of_between hbetween
        weight_between := hbetween
        kind := hkind }⟩

end Record

/-- **The grammar of records.** A value is accepted exactly if it is an object that is a record, and
the entry that comes of it is exactly the one its fields describe. -/
theorem Entry.ofRecord_grammar (record : Value) :
    ((∃ entry, Entry.ofRecord record = .ok entry) ↔
        ∃ fields, record = .object fields ∧ IsRecord fields) ∧
      ∀ entry, Entry.ofRecord record = .ok entry ↔
        ∃ fields, record = .object fields ∧ Describes fields entry := by
  have hentry : ∀ entry, Entry.ofRecord record = .ok entry ↔
      ∃ fields, record = .object fields ∧ Describes fields entry := by
    intro entry
    cases record with
    | object fields =>
      show Entry.ofFields none fields = .ok entry ↔ _
      rw [Entry.ofFields_eq_ok_iff]
      constructor
      · intro h
        exact ⟨fields, rfl, h⟩
      · rintro ⟨other, hsame, h⟩
        cases hsame
        exact h
    | _ => exact iff_of_false nofun fun ⟨_, h, _⟩ => nomatch h
  refine ⟨?_, hentry⟩
  simp only [hentry, ← exists_describes_iff]
  constructor
  · rintro ⟨entry, fields, hrecord, h⟩
    exact ⟨fields, hrecord, entry, h⟩
  · rintro ⟨fields, hrecord, entry, h⟩
    exact ⟨entry, fields, hrecord, h⟩

/-- The keywords are the keys of an object, the weight is a whole number, and the kind is written
with a capital and with blanks. -/
def calcFields : Fields :=
  [("id", .text "calc"), ("title", .text "Calculator"), ("subtitle", .text ""),
    ("keywords", .object [("math", .null), (" ", .null)]), ("base_weight", .int 1),
    ("kind", .text " File ")]

theorem isRecord_calcFields : IsRecord calcFields where
  id := ⟨"calc", rfl, by decide⟩
  title := ⟨"Calculator", rfl, by decide⟩
  subtitle := Or.inr ⟨"", rfl⟩
  keywords := Or.inr (Or.inr ⟨_, rfl⟩)
  weight given h := by
    cases h
    exact ⟨by decide, by decide⟩
  kind := Or.inr ⟨" File ", .file, rfl, by decide⟩

theorem calcFields_accepted : IsRecord calcFields ∧
    ∃ entry, Entry.ofRecord (.object calcFields) = .ok entry ∧ entry.id = "calc" ∧
      entry.subtitle = none ∧ entry.keywords = ["math"] ∧ entry.kind.name = "file" := by
  obtain ⟨haccepted, hdescribed⟩ := Entry.ofRecord_grammar (.object calcFields)
  obtain ⟨entry, hentry⟩ := haccepted.mpr ⟨_, rfl, isRecord_calcFields⟩
  obtain ⟨fields, hsame, h⟩ := (hdescribed entry).mp hentry
  cases hsame
  have hid : calcFields.getD "id" = .text "calc" := rfl
  have hkind : lower (trim " File ") = "file" := by decide
  refine ⟨isRecord_calcFields, entry, hentry, ?_, ?_, ?_, ?_⟩
  · exact (Value.text.inj (hid.symm.trans h.id)).symm
  · refine Option.eq_none_iff_forall_ne_some.mpr fun s hs => ?_
    obtain ⟨htext, hne⟩ := (h.subtitle.2 s).mp hs
    cases htext
    exact hne rfl
  · rw [h.keywords.2]
    rfl
  · rcases h.kind with ⟨hnull, -⟩ | ⟨s, hs, hname⟩
    · cases hnull
    · cases hs
      exact hname.symm.trans hkind

end Launcher
