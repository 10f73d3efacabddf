import Launcher.Catalog.Entry
import Launcher.Search.Ranking
import Launcher.Text.Lowercase
import Launcher.Value.Conversion

/-!
# The search index

An index is a catalog ready to be searched: its entries have distinct ids, and their titles and
keywords are kept in lowercase. It is never changed; a new catalog gives a new index.

The weights are kept as they were given. A search fails when a rule applies whose weight is not a
number or has no double; `Index.best` is the search for a text with a whole limit, and
`Index.find` takes any value as a query and any number as a limit.

Modelled is `SearchIndex`. The time at which an index was built is left out, since nothing reads it.
-/

namespace Launcher

open Launcher.Text

/-- What is searched of an entry. -/
def Row.ofEntry (entry : Entry) : Row Float where
  title := lower entry.title
  keywords := entry.keywords.map lower
  baseWeight := entry.baseWeight

/-- The first id that stands among those seen or before it in the list. -/
def firstRepeated? (seen : List Text) : List Text → Option Text
  | [] => none
  | id :: rest => if id ∈ seen then some id else firstRepeated? (id :: seen) rest

/-- Where no id is repeated, all are distinct and none is among those seen. -/
theorem nodup_of_firstRepeated?_eq_none {seen ids : List Text}
    (h : firstRepeated? seen ids = none) : ids.Nodup ∧ ∀ id ∈ ids, id ∉ seen := by
  induction ids generalizing seen with
  | nil => simp
  | cons id rest ih =>
    unfold firstRepeated? at h
    split at h
    · cases h
    · rename_i fresh
      obtain ⟨distinct, apart⟩ := ih h
      refine ⟨List.nodup_cons.2 ⟨fun m => apart id m List.mem_cons_self, distinct⟩, ?_⟩
      intro other m
      rcases List.mem_cons.1 m with rfl | m
      · exact fresh
      · exact fun seenOther => apart other m (List.mem_cons_of_mem id seenOther)

/-- A catalog ready to be searched. -/
structure Index where
  entries : List Entry
  weights : Weights Value
  rows : List (Row Float)
  distinct : (entries.map Entry.id).Nodup
  rows_eq : rows = entries.map Row.ofEntry

/-- What is shown of a match. -/
structure Result where
  title : Text
  subtitle : Option Text
  score : Float

/-- The place in a list of some length that a position means, if it is not before the start: a
position counts from the start, or from the end if it is negative. -/
def placeOf? (length : Nat) (position : Int) : Option Nat :=
  if 0 ≤ position then some position.toNat
  else if -position ≤ length then some (length + position).toNat
  else none

namespace Index

/-- The index of entries with distinct ids. -/
def ofDistinct (weights : Weights Value) (entries : List Entry)
    (distinct : (entries.map Entry.id).Nodup) : Index :=
  ⟨entries, weights, entries.map Row.ofEntry, distinct, rfl⟩

/-- The index without entries. -/
def empty (weights : Weights Value) : Index := ofDistinct weights [] List.nodup_nil

/-- The index of a catalog; an id may not occur twice. -/
def build (weights : Weights Value) (entries : List Entry) : Except Fault Index :=
  match h : firstRepeated? [] (entries.map Entry.id) with
  | some id => .error (.catalog (.duplicateId id))
  | none => .ok (ofDistinct weights entries (nodup_of_firstRepeated?_eq_none h).1)

/-- The number of entries. -/
def size (index : Index) : Nat := index.entries.length

/-- The matches of a text in the order of the catalog, or the fault of the first that has one. -/
def fitting (index : Index) (query : Text) : Except Fault (List (Match Float)) :=
  (candidates (index.weights.map Value.asDouble) (lower query)
    (index.rows.map (Row.map Except.ok))).mapM Match.sound

/-- The best entries for a text, at most `limit` of them. -/
def best (index : Index) (query : Text) (limit : Nat) : Except Fault (List (Match Float)) :=
  (index.fitting query).map (Launcher.best limit)

/-- The text that a query is searched as: whatever counts as false is searched as the empty text. -/
def queryText (query : Value) : Except Fault Text :=
  if !query.isTrue then .ok []
  else match query with
    | .text t => .ok t
    | _ => .error .noSuchMember

/-- The best of some matches; where there are any, only a whole number can limit them. -/
def limited (limit : Number) (found : List (Match Float)) : Except Fault (List (Match Float)) :=
  if found.isEmpty then .ok []
  else match limit.whole? with
    | some n => .ok (Launcher.best n.toNat found)
    | none => .error .wrongType

/-- The best entries for a query; the catalog without entries answers every query. -/
def find (index : Index) (query : Value) (limit : Number) : Except Fault (List (Match Float)) :=
  if index.entries.isEmpty then .ok []
  else do
    let found ← index.fitting (← queryText query)
    limited limit found

/-- A text is searched as itself. -/
@[simp] theorem queryText_text (query : Text) : queryText (.text query) = .ok query := by
  cases query <;> simp [queryText, Value.isTrue]

/-- Finding a text with a whole limit is the search for the best entries. -/
theorem find_text (index : Index) (query : Text) (limit : Nat) :
    index.find (.text query) (.whole limit) = index.best query limit := by
  unfold find best
  split
  · rename_i none
    have rows : index.rows = [] := by simp [index.rows_eq, List.isEmpty_iff.1 none]
    simp [fitting, rows, candidates, Launcher.best, Except.map, pure, Except.pure]
  · simp only [queryText_text, bind, Except.bind]
    cases index.fitting query with
    | error fault => rfl
    | ok found => cases found <;> simp [Except.map, limited, Number.whole?, Launcher.best]

/-- The best entries for a query; the limit must be positive. -/
def search (index : Index) (query limit : Value) : Except Fault (List (Match Float)) := do
  index.find query (← limit.positive "limit")

/-- A search with a positive whole limit looks the query up in the index. -/
theorem search_int {index : Index} {limit : Nat} (hl : 0 < limit) (query : Value) :
    index.search query (.int limit) = index.find query (.whole limit) := by
  unfold search
  rw [Value.positive_int_eq, if_neg (by omega)]
  rfl

/-- The entry at a position, which must be a whole number. -/
def entryAt (index : Index) (position : Value) : Except Fault Entry := do
  match (← position.asNumber).whole? with
  | none => .error .wrongType
  | some n =>
    match (placeOf? index.size n).bind (index.entries[·]?) with
    | some entry => .ok entry
    | none => .error .outOfRange

/-- The entry of a match; the match of another index may lie beyond the end. -/
def entryOf (index : Index) (found : Match Float) : Except Fault Entry :=
  match index.entries[found.position]? with
  | some entry => .ok entry
  | none => .error .outOfRange

/-- What is shown of matches. -/
def results (index : Index) (found : List (Match Float)) : Except Fault (List Result) :=
  found.mapM fun m =>
    (index.entryOf m).map fun entry => ⟨entry.title, entry.subtitle, m.score⟩

end Index

end Launcher
