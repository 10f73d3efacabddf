import Launcher.Fault
import Launcher.Json.Reader

/-!
# Keys of what is read

An object that is read has no key twice, and neither has any object in what is read: a key that
occurs again is put in the place of the first.

> **`readDocument_distinct`** what a document holds has no key twice
> `update_nil_of_nodup` fields without a repeated key stay as they are when they are put one by one
-/

namespace Launcher

namespace Fields

/-- The keys of an object. -/
def keys (fields : Fields) : List Text := fields.map Prod.fst

/-- Putting a value adds at most its key. -/
theorem mem_keys_put {key other : Text} {v : Value} {fields : Fields} :
    other ∈ keys (put key v fields) ↔ other = key ∨ other ∈ keys fields := by
  induction fields with
  | nil => simp [put, keys]
  | cons kw rest ih =>
    obtain ⟨k, w⟩ := kw
    unfold put
    split
    · next h => simp [keys, h]
    · next h =>
      show other ∈ k :: keys (put key v rest) ↔ other = key ∨ other ∈ k :: keys rest
      rw [List.mem_cons, List.mem_cons, ih]
      exact or_left_comm

/-- Putting a key leaves no key twice. -/
theorem nodup_keys_put (key : Text) (v : Value) {fields : Fields} (h : (keys fields).Nodup) :
    (keys (put key v fields)).Nodup := by
  induction fields with
  | nil => simp [put, keys]
  | cons kw rest ih =>
    obtain ⟨k, w⟩ := kw
    have hrest : k ∉ keys rest ∧ (keys rest).Nodup := List.nodup_cons.mp h
    unfold put
    split
    · exact h
    · next hne =>
      refine List.nodup_cons.mpr ⟨fun hk => ?_, ih hrest.2⟩
      exact (mem_keys_put.mp hk).elim hne hrest.1

/-- A new key is put at the end. -/
theorem put_of_not_mem {key : Text} (v : Value) {fields : Fields} (h : key ∉ keys fields) :
    put key v fields = fields ++ [(key, v)] := by
  induction fields with
  | nil => rfl
  | cons kw rest ih =>
    obtain ⟨k, w⟩ := kw
    have hne : key ≠ k := List.ne_of_not_mem_cons h
    have hrest : key ∉ keys rest := List.not_mem_of_not_mem_cons h
    rw [put, if_neg hne.symm, ih hrest, List.cons_append]

/-- Fields whose keys are all distinct are put one behind the other. -/
theorem update_of_nodup {extra : Fields} : ∀ (fields : Fields), (keys (fields ++ extra)).Nodup →
    update fields extra = fields ++ extra := by
  induction extra with
  | nil => exact fun _ _ => (List.append_nil _).symm
  | cons kv rest ih =>
    intro fields h
    have hsplit : fields ++ kv :: rest = fields ++ [kv] ++ rest := by simp
    have hkey : kv.1 ∉ keys fields := by
      rw [keys, List.map_append, List.map_cons, List.nodup_append] at h
      exact fun hmem => h.2.2 _ hmem _ List.mem_cons_self rfl
    show update (put kv.1 kv.2 fields) rest = _
    rw [put_of_not_mem kv.2 hkey, hsplit, ih _ (hsplit ▸ h)]

/-- Fields without a repeated key stay as they are when they are put one by one. -/
theorem update_nil_of_nodup {fields : Fields} (h : (keys fields).Nodup) :
    update [] fields = fields := update_of_nodup [] h

end Fields

namespace Json

mutual

/-- No object in the value has a key twice. -/
def Distinct : Value → Prop
  | .list items => AllDistinct items
  | .object fields => (Fields.keys fields).Nodup ∧ FieldsDistinct fields
  | _ => True

/-- No object in the values has a key twice. -/
def AllDistinct : List Value → Prop
  | [] => True
  | v :: rest => Distinct v ∧ AllDistinct rest

/-- No object in the values of the fields has a key twice. -/
def FieldsDistinct : List (Text × Value) → Prop
  | [] => True
  | (_, v) :: rest => Distinct v ∧ FieldsDistinct rest

end

theorem allDistinct_iff {items : List Value} : AllDistinct items ↔ ∀ v ∈ items, Distinct v := by
  induction items with
  | nil => simp [AllDistinct]
  | cons v rest ih => rw [AllDistinct, ih, List.forall_mem_cons]

theorem fieldsDistinct_iff {fields : Fields} :
    FieldsDistinct fields ↔ ∀ kv ∈ fields, Distinct kv.2 := by
  induction fields with
  | nil => simp [FieldsDistinct]
  | cons kv rest ih => rw [FieldsDistinct, ih, List.forall_mem_cons]

/-- Putting a value without repeated keys keeps fields without them. -/
theorem FieldsDistinct.put {v : Value} {fields : Fields} (hv : Distinct v)
    (h : FieldsDistinct fields) (key : Text) : FieldsDistinct (fields.put key v) := by
  induction fields with
  | nil => exact ⟨hv, trivial⟩
  | cons kw rest ih =>
    obtain ⟨k, w⟩ := kw
    unfold Fields.put
    split
    · exact ⟨hv, h.2⟩
    · exact ⟨h.1, ih h.2⟩

/-- What is read with some fuel has no key twice. -/
structure ReadsDistinct (fuel : Nat) : Prop where
  value : ∀ {place cs v next left}, readValue fuel place cs = .ok (v, next, left) → Distinct v
  items : ∀ {done place cs v next left}, AllDistinct done →
    readItems fuel done place cs = .ok (v, next, left) → Distinct v
  fields : ∀ {done place cs v next left}, (Fields.keys done).Nodup → FieldsDistinct done →
    readFields fuel done place cs = .ok (v, next, left) → Distinct v

theorem readNumber_distinct {place : Nat} {cs : Text} {v : Value} {next : Nat}
    {left : Text} (h : readNumber place cs = .ok (v, next, left)) : Distinct v := by
  unfold readNumber at h
  extract_lets at h
  split at h
  · cases h
  · split at h
    · split at h
      · cases h
      · cases h
        exact trivial
    · cases h
      exact trivial

theorem readName?_distinct {place : Nat} {cs : Text} {found : Read Value}
    (h : readName? place cs = some found) : Distinct found.1 := by
  obtain ⟨entry, hentry, rfl⟩ := Option.map_eq_some_iff.mp h
  have hall : ∀ entry ∈ names, Distinct entry.2 := by
    simp [names, Distinct]
  exact hall entry (List.mem_of_find?_eq_some hentry)

namespace ReadsDistinct

variable {fuel : Nat} {place next : Nat} {cs left : Text} {v : Value}

/-- One more step of reading a value, where the steps inside it give distinct keys. -/
theorem readValue_succ (ih : ReadsDistinct fuel)
    (h : readValue (fuel + 1) place cs = .ok (v, next, left)) : Distinct v := by
  have hkeys : (Fields.keys []).Nodup := List.nodup_nil
  have hfields : FieldsDistinct [] := trivial
  have hitems : AllDistinct [] := trivial
  rw [readValue.eq_def] at h
  simp only at h
  split at h
  · obtain ⟨⟨s, _, _⟩, -, hs⟩ := exists_of_bind_eq_ok h
    cases hs
    exact trivial
  · split at h
    · cases h
      exact ⟨hkeys, hfields⟩
    · exact ih.fields hkeys hfields h
  · split at h
    · cases h
      exact trivial
    · exact ih.items hitems h
  · split at h
    · next hname =>
      cases h
      exact readName?_distinct hname
    · exact readNumber_distinct h

/-- One more step of reading the items of a list, where those inside it give distinct keys. -/
theorem readItems_succ (ih : ReadsDistinct fuel) {done : List Value} (hdone : AllDistinct done)
    (h : readItems (fuel + 1) done place cs = .ok (v, next, left)) : Distinct v := by
  rw [readItems] at h
  obtain ⟨⟨item, _, _⟩, hitem, h⟩ := exists_of_bind_eq_ok h
  have hnext : AllDistinct (item :: done) := ⟨ih.value hitem, hdone⟩
  simp only at h
  split at h
  · cases h
    exact allDistinct_iff.mpr fun v hv => allDistinct_iff.mp hnext v (List.mem_reverse.mp hv)
  · exact ih.items hnext h
  · cases h

/-- A key that comes again takes the place of the earlier one. -/
theorem readFields_succ (ih : ReadsDistinct fuel) {done : Fields}
    (hnodup : (Fields.keys done).Nodup) (hdone : FieldsDistinct done)
    (h : readFields (fuel + 1) done place cs = .ok (v, next, left)) : Distinct v := by
  rw [readFields.eq_def] at h
  simp only at h
  split at h
  · obtain ⟨⟨key, _, _⟩, -, h⟩ := exists_of_bind_eq_ok h
    simp only at h
    split at h
    · obtain ⟨⟨w, _, _⟩, hw, h⟩ := exists_of_bind_eq_ok h
      simp only at h
      have hput := FieldsDistinct.put (ih.value hw) hdone key
      have hputs := Fields.nodup_keys_put key w hnodup
      split at h
      · cases h
        exact ⟨hputs, hput⟩
      · exact ih.fields hputs hput h
      · cases h
    · cases h
  · cases h

end ReadsDistinct

/-- Whatever is read has distinct keys, at every depth; by induction on the fuel. -/
theorem readsDistinct (fuel : Nat) : ReadsDistinct fuel := by
  -- with no fuel nothing is read; what is read with one unit more is put together from parts
  induction fuel with
  | zero => exact ⟨nofun, fun _ => nofun, fun _ _ => nofun⟩
  | succ fuel ih => exact ⟨ih.readValue_succ, ih.readItems_succ, ih.readFields_succ⟩

/-- **What a document holds has no key twice.** -/
theorem readDocument_distinct {s : Text} {v : Value} (h : readDocument s = .ok v) :
    Distinct v := by
  unfold readDocument at h
  split at h
  · next hwhole =>
    cases h
    unfold readWhole at hwhole
    split at hwhole
    · cases hwhole
    · obtain ⟨⟨w, _, _⟩, hw, hwhole⟩ := exists_of_bind_eq_ok hwhole
      simp only at hwhole
      split at hwhole
      · cases hwhole
        exact (readsDistinct _).value hw
      · cases hwhole
  · cases h

end Json

end Launcher
