import Launcher.Catalog.Load
import Launcher.Proofs.Catalog.Record

/-!
# When loading a catalog ends with a fault

Loading is meant never to fail: a file that is missing, unreadable or malformed gives an empty
catalog, and a record that is refused is left out. Three things come through all the same, because
nothing on the way takes them for a refusal: a name too long for any file when the file is looked
for, a whole number too long to be read in the document, and a record with a base weight beyond the
largest double. `Obstacle` lists them, and they are all there are.

> **`Catalog.load_result_iff`** loading gives a fault exactly if it meets the obstacle of that
> fault; otherwise it gives the first entry of each id among the records that are accepted
-/

namespace Launcher.Catalog

/-! ## Records -/

/-- The entry of a record, if the record is accepted. -/
def accepted? (record : Value) : Option Entry := (Entry.ofRecord record).toOption

open Classical in
/-- Refused records are left out; an overweight one takes all others with it, wherever it stands. -/
theorem readRecords_result (records : List Value) : ∀ position : Nat,
    (readRecords position records).result
      = if ∃ record ∈ records, Entry.IsOverweight record then .error .numberTooLarge
        else .ok (records.filterMap accepted?) := by
  induction records with
  | nil =>
    intro position
    rw [if_neg (by simp)]
    rfl
  | cons record rest ih =>
    intro position
    rw [readRecords]
    split
    · next entry hentry =>
      have haccepted : accepted? record = some entry := by rw [accepted?, hentry]; rfl
      have hlight : ¬ Entry.IsOverweight record := fun h => by
        rw [Entry.ofRecord_of_isOverweight h] at hentry
        cases hentry
      simp only [ih, List.exists_mem_cons_iff, hlight, false_or, List.filterMap_cons, haccepted]
      split
      · rfl
      · rfl
    · next fault hfault =>
      have hrefused : accepted? record = none := by rw [accepted?, hfault]; rfl
      have hlight : ¬ Entry.IsOverweight record := fun h => by
        rw [Entry.ofRecord_of_isOverweight h] at hfault
        cases hfault
      simp only [ih, List.exists_mem_cons_iff, hlight, false_or, List.filterMap_cons, hrefused]
    · next reason hno hreason =>
      obtain ⟨rfl, hover⟩ := (Entry.ofRecord_error_iff hno).mp hreason
      rw [if_pos ⟨record, List.mem_cons_self, hover⟩]

open Classical in
/-- The entries of a list of records, unless one of them ends with the fault of its weight. -/
theorem ofRecords_result (records : List Value) :
    (ofRecords records).result
      = if ∃ record ∈ records, Entry.IsOverweight record then .error .numberTooLarge
        else .ok (firstPerId [] (records.filterMap accepted?)).1 := by
  have h := readRecords_result records 0
  unfold ofRecords dedupe
  split
  · next reason hreason =>
    rw [hreason] at h ⊢
    split at h
    · next hover => rw [if_pos hover, h]
    · cases h
  · next entries hentries =>
    rw [hentries] at h
    split at h
    · cases h
    · next hover => cases h; rw [if_neg hover]

/-! ## The document -/

/-- The records that a document holds; one without a list of them counts as empty. -/
def recordsOf (document : Value) : List Value :=
  match document with
  | .list records => records
  | .object fields =>
    match Fields.get? fields "entries" with
    | some (.list records) => records
    | _ => []
  | _ => []

/-- A document gives the entries of the records in it. -/
theorem ofDocument_result (path : Path) (document : Value) :
    (ofDocument path document).result = (ofRecords (recordsOf document)).result := by
  cases document with
  | object fields =>
    simp only [ofDocument, recordsOf]
    cases hentries : Fields.get? fields "entries" with
    | none => rfl
    | some given => cases given <;> rfl
  | _ => rfl

/-! ## The file -/

/-- The records in the file at a path; a file that is missing, unreadable or malformed counts as
empty. -/
def recordsIn (machine : Machine) (path : Path) : List Value :=
  match machine.has path, machine.read path with
  | .ok true, .ok text =>
    match Json.readDocument text with
    | .ok document => recordsOf document
    | .error _ => []
  | _, _ => []

/-- What keeps a catalog from being loaded, and the fault that comes of it. -/
@[mk_iff] inductive Obstacle (machine : Machine) (path : Path) : Fault → Prop where
  /-- The path has a name that is too long for any file. -/
  | name {long : Text} (has : machine.has path = .error (.nameTooLong long)) :
    Obstacle machine path (.nameTooLong long)
  /-- The document has a whole number that is too long to be read. -/
  | digits {text : String} {count : Nat} (has : machine.has path = .ok true)
    (read : machine.read path = .ok text)
    (stop : Json.readDocument text = .error (.tooManyDigits count)) :
    Obstacle machine path (.tooManyDigits (some count))
  /-- A record has a base weight beyond the largest double. -/
  | weight {record : Value} (mem : record ∈ recordsIn machine path)
    (overweight : Entry.IsOverweight record) : Obstacle machine path .numberTooLarge

/-- Looking for a file fails at names that are too long, and at nothing else. -/
theorem has_error {machine : Machine} {path : Path} {reason : Fault}
    (h : machine.has path = .error reason) : ∃ long, reason = .nameTooLong long := by
  unfold Machine.has at h
  split at h
  · cases h; exact ⟨_, rfl⟩
  unfold Tree.has Tree.look at h
  split at h
  · cases h
  split at h
  · cases h
  · cases h; exact ⟨_, rfl⟩
  · cases h

open Classical in
/-- Loading from a path meets one obstacle or none. -/
theorem loadFrom_cases (machine : Machine) (path : Path) :
    (∃ fault, (loadFrom machine path).result = .error fault ∧
        ∀ other, Obstacle machine path other ↔ other = fault) ∨
      (loadFrom machine path).result
          = .ok (firstPerId [] ((recordsIn machine path).filterMap accepted?)).1 ∧
        ∀ fault, ¬ Obstacle machine path fault := by
  unfold loadFrom documentOf
  rcases hhas : machine.has path with reason | there
  · obtain ⟨long, rfl⟩ := has_error hhas
    exact Or.inl ⟨_, rfl, by simp [obstacle_iff, recordsIn, hhas]⟩
  cases there with
  | false =>
    right
    simp [obstacle_iff, recordsIn, hhas, firstPerId]
  | true =>
    rcases hread : machine.read path with reason | text
    · right
      simp [obstacle_iff, recordsIn, hhas, hread, firstPerId]
    rcases hdocument : Json.readDocument text with fault | document
    · cases fault with
      | tooManyDigits count =>
        refine Or.inl ⟨.tooManyDigits (some count), by simp only [hdocument], ?_⟩
        simp [obstacle_iff, recordsIn, hhas, hread, hdocument]
      | malformed complaint line column place =>
        right
        simp [obstacle_iff, recordsIn, hhas, hread, hdocument, firstPerId]
    · -- the document is read: the only obstacle left is a record in it
      have hrecords : recordsIn machine path = recordsOf document := by
        simp [recordsIn, hhas, hread, hdocument]
      have hobstacle : ∀ fault, Obstacle machine path fault ↔
          ∃ record ∈ recordsOf document, Entry.IsOverweight record ∧ fault = .numberTooLarge := by
        simp [obstacle_iff, hrecords, hhas, hread, hdocument]
      simp only [hdocument, ofDocument_result, ofRecords_result, hrecords, hobstacle]
      by_cases hover : ∃ record ∈ recordsOf document, Entry.IsOverweight record
      · refine Or.inl ⟨.numberTooLarge, if_pos hover, fun other => ?_⟩
        obtain ⟨record, hmem, hrecord⟩ := hover
        exact ⟨fun ⟨_, _, _, h⟩ => h, fun h => ⟨record, hmem, hrecord, h⟩⟩
      · exact Or.inr ⟨if_neg hover, fun fault ⟨record, hmem, hrecord, _⟩ =>
          hover ⟨record, hmem, hrecord⟩⟩

/-- **Loading a catalog.** It gives a fault exactly if it meets the obstacle of that fault.
Otherwise it gives the first entry of each id among the records that are accepted: none of a file
that is missing, unreadable or malformed, and none of a record that is refused. -/
theorem load_result_iff {machine : Machine} {given path : Path}
    (hpath : given.expandHome machine.home = .ok path) :
    (∀ fault, (load machine given).result = .error fault ↔ Obstacle machine path fault) ∧
      ∀ entries, (load machine given).result = .ok entries ↔
        (∀ fault, ¬ Obstacle machine path fault) ∧
          entries = (firstPerId [] ((recordsIn machine path).filterMap accepted?)).1 := by
  have hload : load machine given = loadFrom machine path := by
    unfold load
    rw [hpath]
  rw [hload]
  rcases loadFrom_cases machine path with ⟨fault, hresult, hobstacle⟩ | ⟨hresult, hnone⟩
  · simp [hresult, hobstacle, eq_comm]
  · simp [hresult, hnone, eq_comm]

/-- A document of two records: the first has a base weight of 401 digits, the second none. -/
def vastChars : List Char :=
  "[\x7b\"id\": \"vast\", \"title\": \"Vast\", \"base_weight\": 1".toList ++
    List.replicate 400 '0' ++
    "\x7d, \x7b\"id\": \"calc\", \"title\": \"Calculator\"\x7d]".toList

/-- A machine with a catalog of the given text in its current directory. -/
def machineWith (text : String) : Machine :=
  Machine.fresh ⟨.plain, ["home"]⟩ ⟨.plain, ["work"]⟩ none .linux 80
    ⟨[(Path.location ⟨.plain, ["work"]⟩, .directory),
      (Path.location ⟨.plain, ["work", "catalog.json"]⟩, .file (.text text))]⟩

/-- The machine whose catalog is that document. -/
def vastMachine : Machine := machineWith (String.ofList vastChars)

/-- The path to that catalog. -/
def vastPath : Path := ⟨.here, ["catalog.json"]⟩

/-- The name of the file is that path. -/
theorem ofValue_vastPath : Path.ofValue (.text "catalog.json") = .ok vastPath := by
  have hpath : Path.ofText "catalog.json" = vastPath := by decide
  exact congrArg Except.ok hpath

/-- The catalog file is there. -/
theorem machineWith_has (text : String) : (machineWith text).has vastPath = .ok true := by rfl

/-- The catalog file is read with its line ends unified. -/
theorem machineWith_read (text : String) :
    (machineWith text).read vastPath = .ok (String.ofList (Text.unifyLineEnds text.toList)) := by
  rfl

/-- The records that a machine with a document as its catalog file has in it. -/
theorem recordsIn_machineWith {cs : List Char} {document : Value}
    (hends : Text.unifyLineEnds cs = cs)
    (hdocument : Json.readWhole (Text.ofChars cs) = .ok document) :
    recordsIn (machineWith (String.ofList cs)) vastPath = recordsOf document := by
  simp only [recordsIn, machineWith_has, machineWith_read, Json.readDocument, String.toList_ofList,
    Text.ofString_ofList, hends, hdocument]

theorem vastPath_expandHome : vastPath.expandHome vastMachine.home = .ok vastPath := by
  rfl

/-- On that machine the obstacles of the catalog are the faults of loading it. -/
theorem vast_load_result :
    vastPath.expandHome vastMachine.home = .ok vastPath ∧
      ∀ fault, (load vastMachine vastPath).result = .error fault ↔
        Obstacle vastMachine vastPath fault :=
  ⟨vastPath_expandHome, (load_result_iff vastPath_expandHome).1⟩

/-- A document that lists a record with such a base weight first has been read. -/
def isVast : Except Json.Stop Value → Bool
  | .ok (.list (.object [(i, .text _), (t, .text _), (w, .int n)] :: _)) =>
    [i, t, w] == ([↑"id", ↑"title", ↑"base_weight"] : List Text) && n == 10 ^ 400
  | _ => false

theorem vast_overweight : ∃ document, Json.readWhole (Text.ofChars vastChars) = .ok document ∧
    ∃ record ∈ recordsOf document, Entry.IsOverweight record := by
  have hshape : isVast (Json.readWhole (Text.ofChars vastChars)) = true := by decide +kernel
  generalize Json.readWhole (Text.ofChars vastChars) = read at hshape
  unfold isVast at hshape
  split at hshape
  · next i id t title w n rest =>
    rw [Bool.and_eq_true, beq_iff_eq, beq_iff_eq] at hshape
    obtain ⟨hkeys, hn⟩ := hshape
    have hhuge : 2 ^ 1024 - 2 ^ 970 ≤ |n| := by rw [hn]; decide +kernel
    injection hkeys with hi hkeys
    injection hkeys with ht hkeys
    injection hkeys with hw
    subst hi ht hw
    exact ⟨_, rfl, _, List.mem_cons_self, _, rfl, ⟨id, rfl⟩, ⟨title, rfl⟩, Or.inl rfl,
      Or.inl rfl, n, rfl, hhuge⟩
  · cases hshape

/-- The weight of 401 digits keeps the catalog from being loaded. -/
theorem vast_obstacle : Obstacle vastMachine vastPath .numberTooLarge := by
  obtain ⟨document, hdocument, record, hmem, hover⟩ := vast_overweight
  have hends : Text.unifyLineEnds vastChars = vastChars := by decide +kernel
  exact .weight ((recordsIn_machineWith hends hdocument).symm ▸ hmem) hover

/-- One record with a vast base weight keeps the whole catalog from being loaded. -/
theorem vast_not_loaded :
    vastPath.expandHome vastMachine.home = .ok vastPath ∧
      ¬ ∃ entries, (load vastMachine vastPath).result = .ok entries := by
  refine ⟨vastPath_expandHome, fun ⟨entries, h⟩ => ?_⟩
  rw [load, vastPath_expandHome] at h
  rcases loadFrom_cases vastMachine vastPath with ⟨fault, hfails, -⟩ | ⟨-, hnone⟩
  · rw [hfails] at h
    cases h
  · exact hnone _ vast_obstacle

end Launcher.Catalog
