import Launcher.Catalog.Entry
import Launcher.Text.Lowercase

/-!
# Records

A record is an object that describes an entry, as catalog files hold it. `Entry.ofRecord` accepts
exactly the objects with

* an `id` that is a text and not empty, and a `title` that is a text and not blank,
* a `subtitle` that is absent, null or a text,
* `keywords` that are absent, or count as false, or are a list of texts or an object,
* a `base_weight` that is absent or a number between 0 and 1, and
* a `kind` that is absent, null, or the name of a kind in any case and with spaces around it.

Modelled are `entry_from_mapping` and `_coerce_kind`. Records come from documents, so keywords that
can be gone through are lists and objects; of an object they are the keys. The check of the entry
itself is the end of `Entry.ofFields`, less what can no longer fail there.
-/

namespace Launcher

open Launcher.Text

namespace Record

/-- The text under a key, otherwise the fault. -/
def textField (fields : Fields) (key : Text) (fault : CatalogFault) : Except Fault Text :=
  match fields.getD key with
  | .text t => .ok t
  | _ => .error (.catalog fault)

/-- The subtitle; an empty one counts as none. -/
def subtitle (fields : Fields) : Except Fault (Option Text) :=
  match fields.getD "subtitle" with
  | .null => .ok none
  | .text t => .ok (if t.isEmpty then none else some t)
  | _ => .error (.catalog (.invalid .subtitleNotText))

/-- The keywords that are not blank. -/
def keywords (fields : Fields) : Except Fault (List Text) :=
  let given := fields.getD "keywords"
  if given.isTrue then (keywordsOf given).map (·.filter fun word => !isBlankText word)
  else .ok []

/-- The base weight before its range is checked. -/
def weight (fields : Fields) : Except Fault Float :=
  match fields.get? "base_weight" with
  | none => .ok defaultBaseWeight
  | some (.int n) =>
    match Decimal.ofInt? n with
    | some x => .ok x
    | none => .error .numberTooLarge
  | some (.float x) => .ok x
  | some given => .error (.catalog (.weight given))

/-- The kind, an action if none is given. -/
def kind (fields : Fields) : Except Fault Kind :=
  match fields.getD "kind" with
  | .null => .ok .action
  | .text t =>
    match Kind.ofName? (lower (trim t)) with
    | some kind => .ok kind
    | none => .error (.catalog (.kind (.text t)))
  | given => .error (.catalog (.kind given))

end Record

/-- The entry that the fields of a record describe, of the kind given if there is one. -/
def Entry.ofFields (kind? : Option Kind) (fields : Fields) : Except Fault Entry := do
  let id ← Record.textField fields "id" .emptyId
  let title ← Record.textField fields "title" .emptyTitle
  let subtitle ← Record.subtitle fields
  let keywords ← Record.keywords fields
  let weight ← Record.weight fields
  let kind ← match kind? with
    | some kind => .ok kind
    | none => Record.kind fields
  if id.isEmpty then .error (.catalog .emptyId)
  if isBlankText title then .error (.catalog .emptyTitle)
  let weight ← checkWeight (.float weight) weight
  .ok { id, title, subtitle, keywords, action := fields.getD "action", baseWeight := weight, kind }

/-- The entry that a record describes. -/
def Entry.ofRecord : Value → Except Fault Entry
  | .object fields => Entry.ofFields none fields
  | _ => .error (.catalog (.invalid .notAnObject))

end Launcher
