import Launcher.Fault
import Launcher.Number
import Launcher.Decimal.Reading
import Launcher.Text.Blank

/-!
# Entries

An entry is one item that the launcher can find: an id, a title, what is searched besides the title,
the action that is handed out when it is picked, and a base weight between 0 and 1.

`Draft.check` is the check that every entry passes before it enters a catalog. A draft leaves the
types of its fields open, and the check looks only at what it needs: an id and a title that are not
empty, a weight in range, keywords that are texts.

Modelled is `CatalogEntry` with its check. An `Entry` is what has passed it with texts as id and
title; drafts are there for whatever else a program may hand over.
-/

namespace Launcher

open Launcher.Text

/-- One item of a catalog. -/
structure Entry where
  id : Text
  title : Text
  subtitle : Option Text := none
  keywords : List Text := []
  action : Value := .null
  baseWeight : Float := 0.5
  kind : Kind := .action
deriving Inhabited

/-- The base weight of an entry that gives none. -/
def defaultBaseWeight : Float := 0.5

/-- The weight lies between 0 and 1; what is not a number does not. -/
def isWeight (x : Float) : Bool := 0.0 ≤ x && x ≤ 1.0

/-- A weight in range, otherwise the fault that shows what was given. -/
def checkWeight (given : Value) (x : Float) : Except Fault Float :=
  if isWeight x then .ok x else .error (.catalog (.weight given))

/-- The texts of a list, none if another value is among them. -/
def texts? : List Value → Option (List Text)
  | [] => some []
  | .text t :: rest => (texts? rest).map (t :: ·)
  | _ :: _ => none

/-- The keywords that a value gives: a list of texts, or an object for its keys. -/
def keywordsOf (given : Value) : Except Fault (List Text) :=
  match given.items? with
  | none => .error (.catalog (.invalid .keywordsNotList))
  | some items =>
    match texts? items with
    | none => .error (.catalog (.invalid .keywordsNotTexts))
    | some words => .ok words

/-- An entry before it is checked, its fields of any type. -/
structure Draft where
  id : Value
  title : Value
  subtitle : Value := .null
  keywords : Value := .list []
  action : Value := .null
  baseWeight : Value := .float defaultBaseWeight
  kind : Value := .text Kind.action.name

/-- A draft that has passed the check: its weight is a number and its keywords are texts. -/
structure CheckedDraft where
  id : Value
  title : Value
  subtitle : Value
  keywords : List Text
  action : Value
  baseWeight : Float
  kind : Value

namespace Draft

/-- A title is a text that is not blank. -/
def checkTitle (title : Value) : Except Fault Unit :=
  if !title.isTrue then .error (.catalog .emptyTitle)
  else match title with
    | .text t => if isBlankText t then .error (.catalog .emptyTitle) else .ok ()
    | _ => .error .noSuchMember

/-- The weight that a value gives: a number, or a text that writes one. -/
def weightOf (given : Value) : Except Fault Float :=
  match given with
  | .int n =>
    match Decimal.ofInt? n with
    | some x => checkWeight given x
    | none => .error .numberTooLarge
  | .float x => checkWeight given x
  | .text t =>
    match Decimal.readFloat? t with
    | some x => checkWeight given x
    | none => .error (.catalog (.weight given))
  | _ => .error (.catalog (.weight given))

/-- Checks a draft: first the id, then title, weight and keywords. -/
def check (draft : Draft) : Except Fault CheckedDraft := do
  if !draft.id.isTrue then .error (.catalog .emptyId)
  checkTitle draft.title
  let weight ← weightOf draft.baseWeight
  let words ← keywordsOf draft.keywords
  .ok { id := draft.id, title := draft.title, subtitle := draft.subtitle, keywords := words,
        action := draft.action, baseWeight := weight, kind := draft.kind }

/-- The keys that a draft may be given by. -/
def keys : List Text :=
  ["id", "title", "subtitle", "keywords", "action", "base_weight", "kind"]

/-- The draft given by the fields of an object, none if a field is unknown or id or title are
missing. -/
def ofFields? (fields : Fields) : Option Draft := do
  if fields.any fun kv => !keys.contains kv.1 then none
  let id ← fields.get? "id"
  let title ← fields.get? "title"
  let blank : Draft := { id, title }
  some { blank with
    subtitle := fields.getD "subtitle"
    keywords := (fields.get? "keywords").getD blank.keywords
    action := fields.getD "action"
    baseWeight := (fields.get? "base_weight").getD blank.baseWeight
    kind := (fields.get? "kind").getD blank.kind }

end Draft

end Launcher
