import Launcher.Config.Basic
import Launcher.Search.Index
import Launcher.Session.Cursor
import Launcher.Session.Debounce
import Launcher.Session.Memo
import Launcher.Session.Stats

/-!
# Sessions

A session is a launcher at work: it turns what is typed into a list of matches and keeps a cursor in
that list. What it shows is always the result of one search: the query shown, its matches, and the
index they were found in.

A text is searched at once, or held until typing rests, or handed to a worker as a background search
that `poll` picks up. Only the newest request counts: a background search is dropped when another
one is scheduled, when a search has been run at once, when the catalog is replaced, or when the
session is closed. Each background search and each new catalog starts a generation, and a result of
an older generation is not shown.

Operations that tell whether they changed what is shown return that with the new session. A search
may fail, for a query that is no text or a weight that is no number; then nothing shown changes, and
the session says why.

Modelled is `SearchController`. The durations in its statistics are left out, as no operation reads
them; only the tally is kept. What the durations add up to is a matter of `Stats`, whose tally goes
with that of the session (`Desk.statistics_follow`). The worker is not part of a session: it gives
tickets, and `poll` is told what has become of one.
-/

namespace Launcher

/-- A background search that has been scheduled; the ticket is its number with the worker. -/
structure Pending where
  generation : Nat
  edition : Nat
  query : Query
  index : Index
  ticket : Nat

/-- What has become of a background search. -/
inductive JobStatus where
  | running
  | found (matched : List (Match Float))
  | failed (fault : Fault)

/-- A launcher at work. -/
structure Session where
  /-- The catalog that is searched. -/
  index : Index
  /-- How often the catalog has been replaced. -/
  edition : Nat
  /-- The largest number of matches. -/
  limit : Number
  cursor : Cursor
  memo : Memo Query (List (Match Float))
  /-- What holds a query until typing rests, if queries are held. -/
  debounce : Option Debounce
  generation : Nat
  pending : Option Pending
  /-- The query shown. -/
  query : Query
  /-- The matches shown. -/
  shown : List (Match Float)
  /-- The index that the matches shown were found in. -/
  shownIndex : Index
  tally : Tally

namespace Session

/-- Shows the result of a search, with the cursor on its first row. -/
def present (session : Session) (query : Query) (found : List (Match Float)) (index : Index) :
    Session :=
  { session with
    query, shown := found, shownIndex := index, cursor := session.cursor.reset found.length }

/-- Searches a query at once. The query searched last is not searched again, and then nothing shown
changes; in either case the background search is dropped. A search that fails is only counted as
one that was not remembered. -/
def run (session : Session) (query : Query) : Except Fault Bool × Session :=
  if session.memo.holds query then
    (.ok false, { session with
      memo := session.memo.countHit, tally := session.tally.record true, pending := none })
  else
    let missed := { session with memo := session.memo.countMiss }
    match session.index.find query.value session.limit with
    | .error fault => (.error fault, missed)
    | .ok found =>
      let searched := { missed with
        memo := missed.memo.store query found
        tally := session.tally.record false
        pending := none }
      (.ok true, searched.present query found session.index)

/-- What holds queries for a number of milliseconds, if it is above zero. -/
def openDebounce (milliseconds : Value) : Except Fault (Option Debounce) := do
  if (Number.whole 0).less (← milliseconds.asNumber) then
    (Debounce.create milliseconds).map some
  else .ok none

/-- The session of a configuration and a catalog; it shows the empty query. -/
def start (config : Config) (entries : List Entry) : Except Fault Session := do
  let limit ← config.limit.positive "limit"
  let index ← Index.build config.weights entries
  let cursor ← Cursor.create config.pageSize
  let debounce ← openDebounce config.debounceMs
  let session : Session :=
    { index, edition := 0, limit, cursor, memo := Memo.empty, debounce, generation := 0,
      pending := none, query := Query.ofText "", shown := [], shownIndex := index,
      tally := Tally.zero }
  let (result, started) := session.run session.query
  result.map fun _ => started

/-- Takes a query that has been typed: holds it, or searches it at once. -/
def textChanged (session : Session) (query : Query) (now : Value) : Except Fault Bool × Session :=
  match session.debounce with
  | none => session.run query
  | some debounce =>
    match debounce.hold query now with
    | .error fault => (.error fault, session)
    | .ok holding => (.ok false, { session with debounce := some holding })

/-- Searches the query that waits, if there is one, and holds it no longer. -/
def flush (session : Session) : Except Fault Bool × Session :=
  match session.debounce with
  | none => (.ok false, session)
  | some debounce =>
    match debounce.waiting? with
    | none => (.ok false, session)
    | some held => run { session with debounce := some debounce.release } held.query

/-- Searches the query that waits if it has rested long enough. -/
def tick (session : Session) (now : Value) : Except Fault Bool × Session :=
  match session.debounce with
  | none => (.ok false, session)
  | some debounce =>
    match debounce.isDue now with
    | .error fault => (.error fault, session)
    | .ok due => if due then session.flush else (.ok false, session)

/-- Moves the cursor by a command given as a value. -/
def navigate (session : Session) (given : Value) : Except Fault Session := do
  let command ← Navigation.ofValue given
  .ok { session with cursor := ← session.cursor.apply command }

/-- The results shown. -/
def results (session : Session) : Except Fault (List Result) :=
  session.shownIndex.results session.shown

/-- The entry under the cursor; between two rows and beyond the last one there is none to be had. -/
def selected? (session : Session) : Except Fault (Option Entry) :=
  match session.cursor.index with
  | none => .ok none
  | some place =>
    match place.whole? with
    | none => .error .wrongType
    | some row =>
      match (placeOf? session.shown.length row).bind (session.shown[·]?) with
      | none => .error .outOfRange
      | some found => (session.shownIndex.entryOf found).map some

/-- Replaces the catalog and searches the query shown in the new one. -/
def rebuild (session : Session) (entries : List Entry) : Except Fault Unit × Session :=
  match Index.build session.index.weights entries with
  | .error fault => (.error fault, session)
  | .ok index =>
    let replaced := { session with
      index
      edition := session.edition + 1
      generation := session.generation + 1
      memo := session.memo.clear }
    let (result, after) := replaced.run session.query
    (result.map fun _ => (), after)

/-- Hands a query to a worker, which gives a ticket or refuses; the query searched last is answered
at once instead. Tells whether a background search has been scheduled. -/
def submit (session : Session) (query : Query) (accepted : Except Fault Nat) :
    Except Fault Bool × Session :=
  if session.memo.holds query then session.run query
  else
    let next := { session with generation := session.generation + 1 }
    match accepted with
    | .error fault => (.error fault, next)
    | .ok ticket =>
      let pending : Pending :=
        { generation := next.generation, edition := session.edition, query,
          index := session.index, ticket }
      (.ok true, { next with pending := some pending })

/-- The background search is of the newest generation and of the catalog in use. -/
def isCurrent (session : Session) (pending : Pending) : Bool :=
  pending.generation == session.generation && pending.edition == session.edition

/-- Shows the result of the background search if it is there and still wanted. A failure of a search
that is no longer wanted is passed over. -/
def poll (session : Session) (status : Nat → JobStatus) : Except Fault Bool × Session :=
  match session.pending with
  | none => (.ok false, session)
  | some pending =>
    let taken := { session with pending := none }
    match status pending.ticket with
    | .running => (.ok false, session)
    | .found matched =>
      if session.isCurrent pending then
        let counted := { taken with
          tally := session.tally.record false
          memo := session.memo.store pending.query matched }
        (.ok true, counted.present pending.query matched pending.index)
      else (.ok false, taken)
    | .failed fault =>
      if session.isCurrent pending then (.error fault, taken) else (.ok false, taken)

/-- Drops the background search. -/
def close (session : Session) : Session := { session with pending := none }

end Session

end Launcher
