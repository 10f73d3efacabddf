import Launcher.Machine
import Launcher.Catalog.Builtin
import Launcher.Catalog.Record

/-!
# Loading a catalog

A catalog file holds a list of records, or an object with such a list under `entries`. A file that
is missing or cannot be read gives an empty catalog, a record that is refused is left out, and of
the entries with one id the first is kept; each time a warning tells of it. `resolve` puts the
built-in entries in front.

Warnings are kept beside the result, so that they are there even when loading ends with a fault.

Modelled are `load_catalog_file`, `entries_from_records`, `dedupe_entries`, `resolve_catalog` and
`resolve_catalog_path`. Their warnings go to a log; here they are listed in the order in which they
are given.
-/

namespace Launcher

/-- Why a catalog file cannot be read. -/
inductive Unreadable where
  | notAList
  | because (fault : Fault)

/-- Something that loading a catalog passed over. -/
inductive Warning where
  | missing (path : Path)
  | unreadable (path : Path) (reason : Unreadable)
  | skipped (position : Nat) (fault : CatalogFault)
  | duplicate (id : Text)

/-- The wording of the reason. -/
def Unreadable.message : Unreadable → Text
  | .notAList => "expected a list of entries"
  | .because fault => fault.message

/-- The text of a warning. -/
def Warning.message : Warning → Text
  | .missing path => "Catalog file " ++ path.text ++ " does not exist; using an empty catalog."
  | .unreadable path reason =>
    "Catalog file " ++ path.text ++ " could not be read (" ++ reason.message ++
      "); using an empty catalog."
  | .skipped position fault =>
    "Skipping catalog entry #" ++ toString position ++ ": " ++ fault.message
  | .duplicate id => (CatalogFault.duplicateId id).message

/-- A result or a fault, and the warnings given on the way. -/
structure Warned (α : Type) where
  warnings : List Warning
  result : Except Fault α

namespace Catalog

/-- The entries whose ids are not among those seen and occur for the first time, and a warning for
each of the others. -/
def firstPerId (seen : List Text) : List Entry → List Entry × List Warning
  | [] => ([], [])
  | entry :: rest =>
    if entry.id ∈ seen then
      let (kept, warnings) := firstPerId seen rest
      (kept, .duplicate entry.id :: warnings)
    else
      let (kept, warnings) := firstPerId (entry.id :: seen) rest
      (entry :: kept, warnings)

/-- The entries that records describe, with a warning for each record that is refused; `position`
is the place of the first record. -/
def readRecords (position : Nat) : List Value → Warned (List Entry)
  | [] => ⟨[], .ok []⟩
  | record :: rest =>
    match Entry.ofRecord record with
    | .ok entry =>
      let later := readRecords (position + 1) rest
      ⟨later.warnings, later.result.map (entry :: ·)⟩
    | .error (.catalog fault) =>
      let later := readRecords (position + 1) rest
      ⟨.skipped position fault :: later.warnings, later.result⟩
    | .error fault => ⟨[], .error fault⟩

/-- Keeps the first entry of each id, after whatever gave the entries. -/
def dedupe (read : Warned (List Entry)) : Warned (List Entry) :=
  match read.result with
  | .error _ => read
  | .ok entries =>
    let (kept, warnings) := firstPerId [] entries
    ⟨read.warnings ++ warnings, .ok kept⟩

/-- The catalog that records describe. -/
def ofRecords (records : List Value) : Warned (List Entry) := dedupe (readRecords 0 records)

/-- The catalog that a document describes; `path` is where it comes from. -/
def ofDocument (path : Path) (document : Value) : Warned (List Entry) :=
  let records := match document with
    | .object fields => (Fields.get? fields "entries").getD (.list [])
    | other => other
  match records with
  | .list records => ofRecords records
  | _ => ⟨[.unreadable path .notAList], .ok []⟩

/-- The document in a catalog file; only a number that is too long to be read is a fault, any other
trouble is a reason not to read the file. -/
def documentOf (machine : Machine) (path : Path) : Except Fault (Except Unreadable Value) :=
  match machine.read path with
  | .error fault => .ok (.error (.because fault))
  | .ok text =>
    match Json.readDocument text with
    | .ok document => .ok (.ok document)
    | .error (.tooManyDigits count) => .error (.tooManyDigits (some count))
    | .error fault => .ok (.error (.because (.document fault)))

/-- The catalog in the file at a path. -/
def loadFrom (machine : Machine) (path : Path) : Warned (List Entry) :=
  match machine.has path with
  | .error fault => ⟨[], .error fault⟩
  | .ok false => ⟨[.missing path], .ok []⟩
  | .ok true =>
    match documentOf machine path with
    | .error fault => ⟨[], .error fault⟩
    | .ok (.error reason) => ⟨[.unreadable path reason], .ok []⟩
    | .ok (.ok document) => ofDocument path document

/-- The catalog in the file that a path leads to, with the home directory for a leading tilde. -/
def load (machine : Machine) (given : Path) : Warned (List Entry) :=
  match given.expandHome machine.home with
  | .error fault => ⟨[], .error fault⟩
  | .ok path => loadFrom machine path

/-- The catalog in the file that a value leads to; null leads to no file. -/
def loadGiven (machine : Machine) (given : Value) : Warned (List Entry) :=
  if given.isNull then ⟨[], .ok []⟩
  else match Path.ofValue given with
    | .error fault => ⟨[], .error fault⟩
    | .ok path => load machine path

/-- Built-in entries followed by a catalog, each id once. -/
def withBuiltins (builtins : List Entry) (loaded : Warned (List Entry)) : Warned (List Entry) :=
  dedupe ⟨loaded.warnings, loaded.result.map (builtins ++ ·)⟩

/-- Built-in entries followed by the catalog of a file, each id once. -/
def resolve (machine : Machine) (given : Value) (builtins : List Entry) : Warned (List Entry) :=
  withBuiltins builtins (loadGiven machine given)

/-- The catalog file that is configured, otherwise the one that the environment names. -/
def configuredPath? (machine : Machine) (configured : Value) : Except Fault (Option Path) :=
  let named : Value :=
    if configured.isTrue then configured
    else (machine.catalogVariable.map Value.text).getD .null
  if named.isTrue then (machine.expand named).map some else .ok none

end Catalog

end Launcher
