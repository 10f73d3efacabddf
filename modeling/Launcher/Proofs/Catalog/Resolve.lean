import Launcher.Proofs.Catalog.FirstPerId
import Launcher.Proofs.Catalog.Load
import Launcher.Proofs.Files.Tree
import Launcher.Proofs.Json.WrittenValue

/-!
# Which records a resolved catalog keeps

Records go through three passes on their way into a catalog: they are checked, the first of each id
is kept, and once more behind the built-in entries. What comes out can be said of each record by
itself and the records before it. It is kept exactly if it is accepted, and its id is neither that
of a built-in entry nor that of a record accepted before it (`kept?`). For any other record there is
one warning, which says that it was refused or that its id was taken (`dropping?`).

`along` carries such a rule along a list of records. `records_accounted` shows that reading records
and walking along their entries follows the two rules, by an induction that goes on from the records
walked so far; `withBuiltins_ofRecords` adds the walk behind the built-in entries.

> `resolve_keeps_first_accepted`: a catalog is the built-in entries and the records kept, in their
> order, with one warning for each record dropped; its ids are distinct, so that an index can be
> built of it and another walk over it changes nothing.
-/

namespace Launcher.Catalog

/-! ## What becomes of each record -/

/-- The ids that are taken: those given, and those of the records accepted so far. -/
def taken (ids : List Text) (earlier : List Value) : List Text :=
  ids ++ (earlier.filterMap accepted?).map Entry.id

/-- The entry of a record behind other records, if the record is accepted and its id is not
taken. -/
def kept? (ids : List Text) (earlier : List Value) (record : Value) : Option Entry :=
  (accepted? record).filter fun entry => entry.id ∉ taken ids earlier

/-- The warning of a record behind other records, if the record is dropped. -/
def dropping? (ids : List Text) (earlier : List Value) (position : Nat) (record : Value) :
    Option Warning :=
  match Entry.ofRecord record with
  | .ok entry => if entry.id ∈ taken ids earlier then some (.duplicate entry.id) else none
  | .error (.catalog fault) => some (.skipped position fault)
  | .error _ => none

/-- What a rule gives for each record, from the records before it, its position and itself. -/
def along {α : Type} (rule : List Value → Nat → Value → Option α) (records : List Value) : List α :=
  records.zipIdx.filterMap fun row => rule (records.take row.2) row.2 row.1

/-- The entries of the records that are kept. -/
def kept (ids : List Text) (records : List Value) : List Entry :=
  along (fun earlier _ record => kept? ids earlier record) records

/-- The warnings of the records that are dropped. -/
def dropped (ids : List Text) (records : List Value) : List Warning :=
  along (dropping? ids) records

/-- The record describes an entry or is refused; reading it does not end in any other way. -/
def Readable (record : Value) : Prop :=
  ∀ fault, Entry.ofRecord record = .error fault → ∃ reason, fault = .catalog reason

/-- What a rule gives for the records behind some others. -/
def alongFrom {α : Type} (rule : List Value → Nat → Value → Option α)
    (before records : List Value) : List α :=
  (records.zipIdx before.length).filterMap fun row =>
    rule ((before ++ records).take row.2) row.2 row.1

/-- A rule goes along the records, each with those before it. -/
theorem alongFrom_cons {α : Type} (rule : List Value → Nat → Value → Option α)
    (before : List Value) (record : Value) (rest : List Value) :
    alongFrom rule before (record :: rest)
      = (rule before before.length record).toList ++ alongFrom rule (before ++ [record]) rest := by
  have hsplit : before ++ record :: rest = before ++ [record] ++ rest := by simp
  have hlength : (before ++ [record]).length = before.length + 1 := by simp
  unfold alongFrom
  rw [List.zipIdx_cons, List.filterMap_cons, List.take_left, hlength, ← hsplit]
  cases rule before before.length record with
  | none => rfl
  | some found => rfl

variable {ids seen : List Text} {before records : List Value} {record : Value} {entry : Entry}

theorem accepted?_of_ok (h : Entry.ofRecord record = .ok entry) :
    accepted? record = some entry := by
  rw [accepted?, h]
  rfl

theorem accepted?_of_error {fault : Fault} (h : Entry.ofRecord record = .error fault) :
    accepted? record = none := by
  rw [accepted?, h]
  rfl

/-- A record that is refused takes no id. -/
theorem taken_append_refused (h : accepted? record = none) :
    taken ids (before ++ [record]) = taken ids before := by
  simp [taken, h]

/-- A record that is accepted takes its id. -/
theorem mem_taken_append_accepted (h : accepted? record = some entry) (id : Text) :
    id ∈ taken ids (before ++ [record]) ↔ id = entry.id ∨ id ∈ taken ids before := by
  simp only [taken, List.filterMap_append, List.filterMap_cons, h, List.filterMap_nil,
    List.map_append, List.map_cons, List.map_nil, List.mem_append, List.mem_singleton]
  grind

/-- What the rules say of an accepted record with a new id, of one whose id is taken, and of a
refused one. -/
theorem rules_of_new (h : Entry.ofRecord record = .ok entry)
    (hnew : entry.id ∉ taken ids before) :
    kept? ids before record = some entry ∧
      ∀ position, dropping? ids before position record = none := by
  unfold kept? dropping?
  rw [accepted?_of_ok h, h]
  simp [hnew]

/-- A record whose id is taken is dropped for that. -/
theorem rules_of_taken (h : Entry.ofRecord record = .ok entry)
    (htaken : entry.id ∈ taken ids before) :
    kept? ids before record = none ∧
      ∀ position, dropping? ids before position record = some (.duplicate entry.id) := by
  unfold kept? dropping?
  rw [accepted?_of_ok h, h]
  simp [htaken]

/-- A record that is refused is dropped for its fault, whatever its id. -/
theorem rules_of_refused {fault : CatalogFault}
    (h : Entry.ofRecord record = .error (.catalog fault)) (ids : List Text)
    (before : List Value) :
    kept? ids before record = none ∧
      ∀ position, dropping? ids before position record = some (.skipped position fault) := by
  unfold kept? dropping?
  rw [accepted?_of_error h, h]
  exact ⟨rfl, fun _ => rfl⟩

/-! ## The passes -/

/-- **The passes follow the two rules.** Reading records and then walking along their entries keeps
and drops what the rules say, whatever records and ids there were before. -/
theorem records_accounted (records : List Value) : ∀ {before : List Value} {seen : List Text},
    (∀ id, id ∈ seen ↔ id ∈ taken ids before) → (∀ record ∈ records, Readable record) →
      let read := readRecords before.length records
      let walked := firstPerId seen (records.filterMap accepted?)
      read.result = .ok (records.filterMap accepted?) ∧
      walked.1 = alongFrom (fun earlier _ record => kept? ids earlier record) before records ∧
      (read.warnings ++ walked.2).Perm (alongFrom (dropping? ids) before records) := by
  induction records with
  | nil => exact fun _ _ => ⟨rfl, rfl, List.Perm.refl _⟩
  | cons record rest ih =>
    intro before seen hseen hreadable
    obtain ⟨hrecord, hrest⟩ := List.forall_mem_cons.mp hreadable
    have hlength : (before ++ [record]).length = before.length + 1 := by simp
    rw [alongFrom_cons, alongFrom_cons]
    cases hof : Entry.ofRecord record with
    | ok entry =>
      have haccepted := accepted?_of_ok hof
      have hmem : ∀ id, id ∈ taken ids (before ++ [record]) ↔
          id = entry.id ∨ id ∈ taken ids before := mem_taken_append_accepted haccepted
      by_cases htaken : entry.id ∈ seen
      · -- dropped by the walk, for its id
        have hsame : ∀ id, id ∈ seen ↔ id ∈ taken ids (before ++ [record]) := fun id => by
          rw [hmem, ← hseen]
          exact ⟨Or.inr, fun h => h.elim (fun heq => heq ▸ htaken) fun h => h⟩
        obtain ⟨hnone, hduplicate⟩ := rules_of_taken hof ((hseen _).mp htaken)
        obtain ⟨hresult, hkept, hperm⟩ := ih hsame hrest
        rw [hlength] at hresult hperm
        simp only [readRecords, hof, List.filterMap_cons, haccepted, firstPerId, if_pos htaken,
          hresult, hnone, hduplicate]
        exact ⟨rfl, hkept, List.perm_middle.trans (hperm.cons _)⟩
      · -- kept, and its id is taken from now on
        have hmore : ∀ id, id ∈ entry.id :: seen ↔ id ∈ taken ids (before ++ [record]) := by
          intro id
          rw [hmem, List.mem_cons, hseen]
        obtain ⟨hsome, hno⟩ := rules_of_new hof (mt (hseen _).mpr htaken)
        obtain ⟨hresult, hkept, hperm⟩ := ih hmore hrest
        rw [hlength] at hresult hperm
        simp only [readRecords, hof, List.filterMap_cons, haccepted, firstPerId, if_neg htaken,
          hresult, hsome, hno]
        exact ⟨rfl, congrArg (entry :: ·) hkept, hperm⟩
    | error fault =>
      -- refused, with a warning of its own
      obtain ⟨reason, rfl⟩ := hrecord fault hof
      have hrefused := accepted?_of_error hof
      have hsame : ∀ id, id ∈ seen ↔ id ∈ taken ids (before ++ [record]) := fun id => by
        rw [taken_append_refused hrefused, hseen]
      obtain ⟨hnone, hskipped⟩ := rules_of_refused hof ids before
      obtain ⟨hresult, hkept, hperm⟩ := ih hsame hrest
      rw [hlength] at hresult hperm
      simp only [readRecords, hof, List.filterMap_cons, hrefused, hresult, hnone, hskipped]
      exact ⟨trivial, hkept, hperm.cons _⟩

/-- A record is kept or dropped, and never both. -/
theorem kept?_or_dropping? (h : Readable record) (ids : List Text) (before : List Value)
    (position : Nat) :
    (kept? ids before record).toList.length + (dropping? ids before position record).toList.length
      = 1 := by
  cases hof : Entry.ofRecord record with
  | ok entry =>
    by_cases htaken : entry.id ∈ taken ids before
    · obtain ⟨hnone, hduplicate⟩ := rules_of_taken hof htaken
      rw [hnone, hduplicate]
      rfl
    · obtain ⟨hsome, hno⟩ := rules_of_new hof htaken
      rw [hsome, hno]
      rfl
  | error fault =>
    obtain ⟨reason, rfl⟩ := h fault hof
    obtain ⟨hnone, hskipped⟩ := rules_of_refused hof ids before
    rw [hnone, hskipped]
    rfl

/-- Each record is kept or dropped, and not both. -/
theorem length_kept_add_dropped (ids : List Text) (records : List Value) : ∀ before : List Value,
    (∀ record ∈ records, Readable record) →
      (alongFrom (fun earlier _ record => kept? ids earlier record) before records).length
        + (alongFrom (dropping? ids) before records).length = records.length := by
  induction records with
  | nil => exact fun _ _ => rfl
  | cons record rest ih =>
    intro before hreadable
    obtain ⟨hrecord, hrest⟩ := List.forall_mem_cons.mp hreadable
    have hone := kept?_or_dropping? hrecord ids before before.length
    have hmore := ih (before ++ [record]) hrest
    rw [alongFrom_cons, alongFrom_cons, List.length_append, List.length_append, List.length_cons]
    omega

/-- Behind entries with distinct ids the records are kept that the first rule names, and there is
one warning for each record that the second rule names. -/
theorem withBuiltins_ofRecords {builtins : List Entry}
    (hbuiltins : (builtins.map Entry.id).Nodup) (hreadable : ∀ record ∈ records, Readable record) :
    (withBuiltins builtins (ofRecords records)).result
        = .ok (builtins ++ kept (builtins.map Entry.id) records) ∧
      (withBuiltins builtins (ofRecords records)).warnings.Perm
        (dropped (builtins.map Entry.id) records) := by
  let accepted := records.filterMap accepted?
  let seen := (builtins.map Entry.id).reverse ++ []
  -- in the second walk the ids of the built-in entries are seen from the start
  have hseen : ∀ id, id ∈ seen ↔ id ∈ taken (builtins.map Entry.id) [] := by
    simp [seen, taken]
  obtain ⟨hread, hkept, hperm⟩ := records_accounted records hseen hreadable
  obtain ⟨hsame, htwice⟩ : (firstPerId seen (firstPerId [] accepted).1).1
        = (firstPerId seen accepted).1 ∧
      ((firstPerId [] accepted).2 ++ (firstPerId seen (firstPerId [] accepted).1).2).Perm
        (firstPerId seen accepted).2 :=
    firstPerId_twice (fun id h => absurd h List.not_mem_nil) accepted
  have hwalk : firstPerId [] (builtins ++ (firstPerId [] accepted).1)
      = (builtins ++ kept (builtins.map Entry.id) records,
          (firstPerId seen (firstPerId [] accepted).1).2) := by
    rw [firstPerId_append_distinct hbuiltins fun _ _ => List.not_mem_nil]
    exact congrArg (fun more => (builtins ++ more, _)) (hsame.trans hkept)
  unfold withBuiltins ofRecords dedupe
  rw [List.length_nil] at hread
  simp only [hread, Except.map]
  rw [hwalk, List.append_assoc]
  exact ⟨rfl, (htwice.append_left _).trans hperm⟩

/-- The ids are distinct in that catalog. -/
theorem nodup_append_kept {builtins : List Entry} (hbuiltins : (builtins.map Entry.id).Nodup)
    (hreadable : ∀ record ∈ records, Readable record) :
    ((builtins ++ kept (builtins.map Entry.id) records).map Entry.id).Nodup := by
  have h := (withBuiltins_ofRecords hbuiltins hreadable).1
  unfold withBuiltins dedupe at h
  split at h
  · next hfault => rw [hfault] at h; cases h
  · next entries hentries =>
    rw [← Except.ok.inj h]
    exact (firstPerId_distinct [] entries).1

/-! ## The file -/

/-- The document is a list of the records, or an object with that list under `entries`; an object
without such a key holds no record. -/
inductive Lists (records : List Value) : Value → Prop where
  | list : Lists records (.list records)
  | entries {fields : Fields}
    (h : (Fields.get? fields "entries").getD (.list []) = .list records) :
    Lists records (.object fields)

/-- The value leads to a file with a document that lists the records. -/
inductive Holds (machine : Machine) (given : Value) (records : List Value) : Prop where
  | intro {named path : Path} {text : String} {document : Value}
    (names : Path.ofValue given = .ok named) (expands : named.expandHome machine.home = .ok path)
    (has : machine.has path = .ok true) (reads : machine.read path = .ok text)
    (decodes : Json.readDocument text = .ok document) (lists : Lists records document)

variable {machine : Machine} {given : Value}

/-- A file with these records loads as they do. -/
theorem Holds.loadGiven_eq (h : Holds machine given records) :
    loadGiven machine given = ofRecords records := by
  obtain ⟨hnamed, hexpands, hhas, hreads, hdecodes, hlists⟩ := h
  have hnull : given.isNull = false := by
    cases given with
    | text s => rfl
    | _ => cases hnamed
  unfold loadGiven load loadFrom documentOf
  rw [hnull, if_neg Bool.false_ne_true, hnamed]
  simp only [hexpands, hhas, hreads, hdecodes]
  cases hlists with
  | list => rfl
  | entries hentries =>
    unfold ofDocument
    simp only [hentries]

/-- The ids of the built-in entries are distinct. -/
theorem nodup_builtinEntries (platform : Platform) :
    ((builtinEntries platform).map Entry.id).Nodup := by
  cases platform <;> decide

/-- The built-in entries of a platform, if they are included. -/
def included (platform : Platform) (flag : Bool) : List Entry :=
  if flag then builtinEntries platform else []

theorem nodup_included (platform : Platform) (flag : Bool) :
    ((included platform flag).map Entry.id).Nodup := by
  cases flag with
  | false => exact List.nodup_nil
  | true => exact nodup_builtinEntries platform

/-- **A resolved catalog** is the built-in entries, if they are included, and behind them the
entries of the records that are kept, in the order of the file: a record is kept exactly if it is
accepted, and neither a built-in entry nor an accepted record before it has its id. There is one
warning for each record that is dropped. The ids are distinct, so an index can be built, and walking
once more along the catalog changes nothing. -/
theorem resolve_keeps_first_accepted (platform : Platform) (flag : Bool)
    (hholds : Holds machine given records) (hreadable : ∀ record ∈ records, Readable record) :
    let builtins := included platform flag
    let ids := builtins.map Entry.id
    let catalog := builtins ++ kept ids records
    let resolved := resolve machine given builtins
    resolved.result = .ok catalog ∧
      (resolved.warnings.Perm (dropped ids records) ∧
        resolved.warnings.length + (kept ids records).length = records.length) ∧
      (catalog.map Entry.id).Nodup ∧
      (∀ weights, ∃ index, Index.build weights catalog = .ok index ∧ index.entries = catalog) ∧
      firstPerId [] catalog = (catalog, []) := by
  intro builtins ids catalog resolved
  have hbuiltins : (builtins.map Entry.id).Nodup := nodup_included platform flag
  have hresolved : resolved = withBuiltins builtins (ofRecords records) :=
    congrArg (withBuiltins builtins) hholds.loadGiven_eq
  obtain ⟨hresult, hwarnings⟩ := withBuiltins_ofRecords hbuiltins hreadable
  rw [← hresolved] at hresult hwarnings
  have hdistinct : (catalog.map Entry.id).Nodup := nodup_append_kept hbuiltins hreadable
  have hcount : resolved.warnings.length + (kept ids records).length = records.length := by
    rw [hwarnings.length_eq, Nat.add_comm]
    exact length_kept_add_dropped ids records [] hreadable
  exact ⟨hresult, ⟨hwarnings, hcount⟩, hdistinct, fun weights =>
    ⟨_, Index.build_of_nodup weights hdistinct, rfl⟩, firstPerId_of_nodup hdistinct⟩

/-! ## A file with repeated ids -/

/-- Only an overweight record is not readable. -/
theorem readable_iff : Readable record ↔ ¬ Entry.IsOverweight record := by
  constructor
  · intro h hover
    obtain ⟨reason, hreason⟩ := h _ (Entry.ofRecord_of_isOverweight hover)
    cases hreason
  · intro hlight fault hfault
    by_contra hno
    rw [not_exists] at hno
    exact hlight ((Entry.ofRecord_error_iff hno).mp hfault).2

/-- A record without a title, two records with its id, and one with a built-in id. -/
def mixedRecords : List Value :=
  [.object [("id", .text "calc")],
    .object [("id", .text "calc"), ("title", .text "Calculator")],
    .object [("id", .text "calc"), ("title", .text "Adding machine")],
    .object [("id", .text "cmd_sleep"), ("title", .text "Rest")]]

/-- A record without a base weight is readable. -/
theorem readable_of_no_weight {fields : Fields} (h : Fields.get? fields "base_weight" = none) :
    Readable (.object fields) := by
  rw [readable_iff]
  rintro ⟨_, hsame, hover⟩
  obtain ⟨n, hn, -⟩ := hover.weight
  cases hsame
  rw [h] at hn
  cases hn

theorem readable_mixedRecords : ∀ record ∈ mixedRecords, Readable record := by
  simp only [mixedRecords, List.forall_mem_cons]
  exact ⟨readable_of_no_weight rfl, readable_of_no_weight rfl, readable_of_no_weight rfl,
    readable_of_no_weight rfl, nofun⟩

/-- The document that lists those records. -/
def mixedText : String :=
  "[\x7b\"id\": \"calc\"\x7d, \x7b\"id\": \"calc\", \"title\": \"Calculator\"\x7d, " ++
    "\x7b\"id\": \"calc\", \"title\": \"Adding machine\"\x7d, " ++
    "\x7b\"id\": \"cmd_sleep\", \"title\": \"Rest\"\x7d]"

theorem readDocument_mixedText : Json.readDocument mixedText = .ok (.list mixedRecords) := by
  have hwritten : Json.write .oneLine (.list mixedRecords) = mixedText := by
    -- a string is turned into codes piece by piece
    unfold mixedText
    rw [Text.ofString_append, Text.ofString_append]
    decide +kernel
  have hwritable : Json.isWritable (.list mixedRecords) = true := by decide
  have hdistinct : Json.Distinct (.list mixedRecords) := by
    simp [mixedRecords, Json.Distinct, Json.AllDistinct, Json.FieldsDistinct, Fields.keys]
  rw [← hwritten]
  exact Json.readDocument_write Json.Layout.spaced_oneLine hwritable hdistinct

/-- The machine whose catalog is that document. -/
def mixedMachine : Machine := machineWith mixedText

/-- A machine holds the records that the text of the file lists. -/
theorem holds_of_text {text : String} {named path : Path} (names : Path.ofValue given = .ok named)
    (expands : named.expandHome machine.home = .ok path) (hhas : machine.has path = .ok true)
    (hread : machine.read path = .ok (String.ofList (Text.unifyLineEnds text.toList)))
    (hreturn : '\r' ∉ text.toList) (hdocument : Json.readDocument text = .ok (.list records)) :
    Holds machine given records := by
  rw [Text.unifyLineEnds_of_no_return hreturn, String.ofList_toList] at hread
  exact ⟨names, expands, hhas, hread, hdocument, .list⟩

/-- A machine with a file that has those records as its text. -/
theorem holds_mixedText {named path : Path} (names : Path.ofValue given = .ok named)
    (expands : named.expandHome machine.home = .ok path) (hhas : machine.has path = .ok true)
    (hread : machine.read path = .ok (String.ofList (Text.unifyLineEnds mixedText.toList))) :
    Holds machine given mixedRecords :=
  holds_of_text names expands hhas hread (by decide +kernel) readDocument_mixedText

theorem holds_mixedRecords (hhas : machine.has vastPath = .ok true)
    (hread : machine.read vastPath
      = .ok (String.ofList (Text.unifyLineEnds mixedText.toList))) :
    Holds machine (.text "catalog.json") mixedRecords :=
  holds_mixedText ofValue_vastPath rfl hhas hread

/-- The catalog file of the machine holds the mixed records. -/
theorem mixedMachine_holds : Holds mixedMachine (.text "catalog.json") mixedRecords :=
  holds_mixedRecords (machineWith_has _) (machineWith_read _)

/-- The catalog of that file behind the built-in entries. -/
theorem mixed_resolved :
    Holds mixedMachine (.text "catalog.json") mixedRecords ∧
      (∀ record ∈ mixedRecords, Readable record) ∧
      (resolve mixedMachine (.text "catalog.json") (included .linux true)).result
        = .ok (builtinEntries .linux
            ++ kept ((builtinEntries .linux).map Entry.id) mixedRecords) :=
  ⟨mixedMachine_holds, readable_mixedRecords,
    (resolve_keeps_first_accepted .linux true mixedMachine_holds readable_mixedRecords).1⟩

end Launcher.Catalog
