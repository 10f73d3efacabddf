import Launcher.Proofs.Search.Rank
import Launcher.Session.Basic

/-!
# What an operation does to a session

One lemma for each operation, so that no later proof opens it. Between them the operations come to
few changes of a session, each with a name of its own:

* `recalled`: the query was answered from memory, and nothing shown changes;
* `searched`: a query was searched and its result is shown;
* `released`: nothing is held any more;
* `renewed`: another catalog is searched from now on;
* `scheduled`: a background search has been handed to the worker;
* `applied`: the result of the background search is shown.

`run_eq` and `flush_eq` are equations, the others say which changes an operation may end in
(`textChanged_cases`, `tick_cases`, `rebuild_cases`, `submit_cases`, `poll_cases`).
-/

namespace Launcher

/-- The query is a text. -/
def Query.IsText (query : Query) : Prop := ∃ s, query = Query.ofText s

@[simp] theorem Query.isText_ofText (s : Text) : (Query.ofText s).IsText := ⟨s, rfl⟩

/-- A memo that remembers a text holds that text and no other. -/
theorem Memo.holds_iff_of_slot {α : Type} {memo : Memo Query α} {known query : Query} {result : α}
    (hs : memo.slot = some (known, result)) (hk : known.IsText) (hq : query.IsText) :
    memo.holds query = true ↔ query = known := by
  obtain ⟨s, rfl⟩ := hk
  obtain ⟨t, rfl⟩ := hq
  by_cases h : s = t
  · subst h
    simp [holds, find?, hs]
  · have hne : Query.ofText t ≠ Query.ofText s := by
      intro he
      injection he with he
      injection he with he
      exact h he.symm
    simp [holds, find?, hs, h, hne]

/-- An empty memo holds no query. -/
theorem Memo.holds_of_slot_eq_none {α : Type} {memo : Memo Query α} (hs : memo.slot = none)
    (query : Query) : memo.holds query = false := by
  simp [holds, find?, hs]

/-- A query is due only if it waits. -/
theorem Debounce.waiting?_isSome_of_isDue {debounce : Debounce} {now : Value}
    (h : debounce.isDue now = .ok true) : debounce.waiting?.isSome = true := by
  unfold isDue at h
  cases hw : debounce.waiting? with
  | none => rw [hw] at h; cases h
  | some held => rfl

/-- What is held after a query has been held is that query, unless it is none. -/
theorem Debounce.query_of_hold {debounce holding : Debounce} {query : Query} {now : Value}
    (h : debounce.hold query now = .ok holding) :
    ∀ held, holding.waiting? = some held → held.query = query := by
  unfold hold at h
  cases hn : now.asDouble with
  | error fault => rw [hn] at h; cases h
  | ok time =>
    rw [hn] at h
    cases h
    intro held hw
    obtain ⟨he, -⟩ := Option.filter_eq_some_iff.mp hw
    cases he
    rfl

namespace Session

variable {session : Session} {query : Query}

/-! ## The changes -/

/-- The query that waits for typing to rest. -/
def waiting? (session : Session) : Option Held := session.debounce.bind Debounce.waiting?

/-- The session with nothing held. -/
def released (session : Session) : Session :=
  { session with debounce := session.debounce.map Debounce.release }

/-- The session after a query was answered from memory. -/
def recalled (session : Session) : Session :=
  { session with
    memo := session.memo.countHit, tally := session.tally.record true, pending := none }

/-- The session after a search that failed. -/
def missed (session : Session) : Session := { session with memo := session.memo.countMiss }

/-- The session after a query was searched and its result shown. -/
def searched (session : Session) (query : Query) (found : List (Match Float)) : Session :=
  { session with
    memo := session.memo.countMiss.store query found
    tally := session.tally.record false
    pending := none
    query, shown := found, shownIndex := session.index
    cursor := session.cursor.reset found.length }

/-- The session with another catalog, before the query shown is searched in it. -/
def renewed (session : Session) (index : Index) : Session :=
  { session with
    index
    edition := session.edition + 1
    generation := session.generation + 1
    memo := session.memo.clear }

/-- The session after the worker refused a search. -/
def refused (session : Session) : Session := { session with generation := session.generation + 1 }

/-- The background search that would be scheduled next. -/
def nextPending (session : Session) (query : Query) (ticket : Nat) : Pending :=
  { generation := session.generation + 1, edition := session.edition, query,
    index := session.index, ticket }

/-- The session after a background search was scheduled. -/
def scheduled (session : Session) (query : Query) (ticket : Nat) : Session :=
  { session.refused with pending := some (session.nextPending query ticket) }

/-- The session after the result of the background search was shown. -/
def applied (session : Session) (pending : Pending) (found : List (Match Float)) : Session :=
  { session with
    memo := session.memo.store pending.query found
    tally := session.tally.record false
    pending := none
    query := pending.query, shown := found, shownIndex := pending.index
    cursor := session.cursor.reset found.length }

@[simp] theorem waiting?_released (session : Session) : session.released.waiting? = none := by
  unfold released waiting?
  cases session.debounce <;> rfl

/-! ## The operations -/

/-- Searching at once: from memory, or in the index. -/
theorem run_eq (session : Session) (query : Query) :
    session.run query =
      if session.memo.holds query then (.ok false, session.recalled)
      else match session.index.find query.value session.limit with
        | .error fault => (.error fault, session.missed)
        | .ok found => (.ok true, session.searched query found) := rfl

/-- A search at once leaves alone what is held. -/
theorem debounce_run (session : Session) (query : Query) :
    (session.run query).2.debounce = session.debounce := by
  rw [run_eq]
  split
  · rfl
  · split <;> rfl

/-- A search at once leaves what waits. -/
theorem waiting?_run (session : Session) (query : Query) :
    (session.run query).2.waiting? = session.waiting? := by
  unfold waiting?
  rw [debounce_run]

/-- Flushing searches what waits. -/
theorem flush_eq (session : Session) :
    session.flush = match session.waiting? with
      | none => (.ok false, session)
      | some held => session.released.run held.query := by
  unfold flush waiting? released
  cases hd : session.debounce with
  | none => rfl
  | some debounce =>
    show (match debounce.waiting? with | none => _ | some held => _) = _
    cases hw : debounce.waiting? with
    | none => simp only [Option.bind_some, hw]
    | some held => simp only [Option.bind_some, hw, Option.map_some]

/-- A tick flushes what is due, and else changes nothing. -/
theorem tick_cases (session : Session) (now : Value) :
    (∃ fault, session.tick now = (.error fault, session)) ∨
    session.tick now = (.ok false, session) ∨
    session.waiting?.isSome = true ∧ session.tick now = session.flush := by
  unfold tick
  cases hd : session.debounce with
  | none => exact Or.inr (Or.inl rfl)
  | some debounce =>
    cases hdue : debounce.isDue now with
    | error fault => exact Or.inl ⟨fault, by simp only [hdue]⟩
    | ok due =>
      cases due with
      | false => exact Or.inr (Or.inl (by simp only [hdue, Bool.false_eq_true, if_false]))
      | true =>
        refine Or.inr (Or.inr ⟨?_, by simp only [hdue, if_true]⟩)
        unfold waiting?
        rw [hd]
        exact Debounce.waiting?_isSome_of_isDue hdue

/-- Typing is searched at once or held; it changes nothing if the clock shows no time. -/
theorem textChanged_cases (session : Session) (query : Query) (now : Value) :
    (session.debounce = none ∧ session.textChanged query now = session.run query) ∨
    ∃ debounce, session.debounce = some debounce ∧
      ((∃ fault, session.textChanged query now = (.error fault, session)) ∨
      ∃ holding, debounce.hold query now = .ok holding ∧
        session.textChanged query now
          = (.ok false, { session with debounce := some holding })) := by
  unfold textChanged
  cases hd : session.debounce with
  | none => exact Or.inl ⟨rfl, rfl⟩
  | some debounce =>
    refine Or.inr ⟨debounce, rfl, ?_⟩
    cases hh : debounce.hold query now with
    | error fault => exact Or.inl ⟨fault, by simp only [hh]⟩
    | ok holding => exact Or.inr ⟨holding, rfl, by simp only [hh]⟩

/-- Moving the cursor changes the cursor alone. -/
theorem navigate_cases {given : Value} {after : Session} (h : session.navigate given = .ok after) :
    ∃ cursor, after = { session with cursor } := by
  unfold navigate at h
  cases hc : Navigation.ofValue given with
  | error fault => rw [hc] at h; cases h
  | ok command =>
    cases hm : session.cursor.apply command with
    | error fault => simp only [hc, hm, bind, Except.bind] at h; cases h
    | ok cursor =>
      simp only [hc, hm, bind, Except.bind] at h
      cases h
      exact ⟨cursor, rfl⟩

/-- Replacing the catalog changes nothing if an id is repeated. -/
theorem rebuild_cases (session : Session) (entries : List Entry) :
    (∃ fault, Index.build session.index.weights entries = .error fault ∧
      session.rebuild entries = (.error fault, session)) ∨
    ∃ index, Index.build session.index.weights entries = .ok index ∧
      session.rebuild entries =
        (((session.renewed index).run session.query).1.map fun _ => (),
          ((session.renewed index).run session.query).2) := by
  unfold rebuild
  cases hb : Index.build session.index.weights entries with
  | error fault => exact Or.inl ⟨fault, rfl, rfl⟩
  | ok index => exact Or.inr ⟨index, rfl, rfl⟩

/-- A query goes to the worker unless it is remembered. -/
theorem submit_cases (session : Session) (query : Query) (accepted : Except Fault Nat) :
    (session.memo.holds query = true ∧
      session.submit query accepted = (.ok false, session.recalled)) ∨
    session.memo.holds query = false ∧
      ((∃ fault, accepted = .error fault ∧
        session.submit query accepted = (.error fault, session.refused)) ∨
      ∃ ticket, accepted = .ok ticket ∧
        session.submit query accepted = (.ok true, session.scheduled query ticket)) := by
  unfold submit
  cases hh : session.memo.holds query with
  | true =>
    refine Or.inl ⟨rfl, ?_⟩
    rw [if_pos rfl, run_eq, if_pos hh]
  | false =>
    rw [if_neg Bool.false_ne_true]
    refine Or.inr ⟨rfl, ?_⟩
    cases accepted with
    | error fault => exact Or.inl ⟨fault, rfl, rfl⟩
    | ok ticket => exact Or.inr ⟨ticket, rfl, rfl⟩

/-- Polling waits for a search that runs, drops one that is no longer current, and shows or reports
what has become of one that is. -/
theorem poll_cases (session : Session) (status : Nat → JobStatus) :
    ((∀ p, session.pending = some p → status p.ticket = .running) ∧
      session.poll status = (.ok false, session)) ∨
    ∃ p, session.pending = some p ∧ status p.ticket ≠ .running ∧
      ((session.isCurrent p = false ∧ session.poll status = (.ok false, session.close)) ∨
      session.isCurrent p = true ∧
        ((∃ found, status p.ticket = .found found ∧
          session.poll status = (.ok true, session.applied p found)) ∨
        ∃ fault, status p.ticket = .failed fault ∧
          session.poll status = (.error fault, session.close))) := by
  unfold poll
  cases hp : session.pending with
  | none => exact Or.inl ⟨nofun, rfl⟩
  | some p =>
    cases hs : status p.ticket with
    | running =>
      refine Or.inl ⟨fun q h => ?_, by simp only [hs]⟩
      cases h
      exact hs
    | found found =>
      refine Or.inr ⟨p, rfl, by rw [hs]; nofun, ?_⟩
      cases hc : session.isCurrent p with
      | false => exact Or.inl ⟨rfl, by simp only [hs, hc]; rfl⟩
      | true => exact Or.inr ⟨rfl, Or.inl ⟨found, hs, by simp only [hs, hc]; rfl⟩⟩
    | failed fault =>
      refine Or.inr ⟨p, rfl, by rw [hs]; nofun, ?_⟩
      cases hc : session.isCurrent p with
      | false => exact Or.inl ⟨rfl, by simp only [hs, hc]; rfl⟩
      | true => exact Or.inr ⟨rfl, Or.inr ⟨fault, hs, by simp only [hs, hc]; rfl⟩⟩

/-! ## A new catalog and a poll leave alone what is held -/

/-- A new catalog leaves what is held. -/
theorem debounce_rebuild (session : Session) (entries : List Entry) :
    (session.rebuild entries).2.debounce = session.debounce := by
  rcases session.rebuild_cases entries with ⟨fault, -, he⟩ | ⟨index, -, he⟩
  · rw [he]
  · rw [he]
    exact (session.renewed index).debounce_run session.query

/-- Polling leaves what is held. -/
theorem debounce_poll (session : Session) (status : Nat → JobStatus) :
    (session.poll status).2.debounce = session.debounce := by
  rcases session.poll_cases status with
    ⟨-, he⟩ | ⟨p, -, -, ⟨-, he⟩ | ⟨-, ⟨found, -, he⟩ | ⟨fault, -, he⟩⟩⟩
  · rw [he]
  · rw [he]; rfl
  · rw [he]; rfl
  · rw [he]; rfl

theorem waiting?_rebuild (session : Session) (entries : List Entry) :
    (session.rebuild entries).2.waiting? = session.waiting? := by
  unfold waiting?
  rw [debounce_rebuild]

/-! ## Only a submitted query is searched in the background -/

/-- A search at once drops the background search or leaves it. -/
theorem pending_run (session : Session) (query : Query) :
    (session.run query).2.pending = none ∨
      (session.run query).2.pending = session.pending := by
  rw [run_eq]
  split
  · exact Or.inl rfl
  · split
    · exact Or.inr rfl
    · exact Or.inl rfl

/-- Flushing drops the background search or leaves it. -/
theorem pending_flush (session : Session) :
    session.flush.2.pending = none ∨ session.flush.2.pending = session.pending := by
  rw [flush_eq]
  split
  · exact Or.inr rfl
  · exact pending_run session.released _

/-- A tick drops the background search or leaves it. -/
theorem pending_tick (session : Session) (now : Value) :
    (session.tick now).2.pending = none ∨ (session.tick now).2.pending = session.pending := by
  rcases session.tick_cases now with ⟨fault, he⟩ | he | ⟨-, he⟩
  · rw [he]; exact Or.inr rfl
  · rw [he]; exact Or.inr rfl
  · rw [he]; exact session.pending_flush

/-- Typing drops the background search or leaves it. -/
theorem pending_textChanged (session : Session) (query : Query) (now : Value) :
    (session.textChanged query now).2.pending = none ∨
      (session.textChanged query now).2.pending = session.pending := by
  rcases session.textChanged_cases query now with
    ⟨-, he⟩ | ⟨debounce, -, ⟨fault, he⟩ | ⟨holding, -, he⟩⟩
  · rw [he]; exact session.pending_run query
  · rw [he]; exact Or.inr rfl
  · rw [he]; exact Or.inr rfl

/-- A new catalog drops the background search or leaves it. -/
theorem pending_rebuild (session : Session) (entries : List Entry) :
    (session.rebuild entries).2.pending = none ∨
      (session.rebuild entries).2.pending = session.pending := by
  rcases session.rebuild_cases entries with ⟨fault, -, he⟩ | ⟨index, -, he⟩
  · rw [he]; exact Or.inr rfl
  · rw [he]; exact (session.renewed index).pending_run session.query

/-- Polling drops the background search or leaves it. -/
theorem pending_poll (session : Session) (status : Nat → JobStatus) :
    (session.poll status).2.pending = none ∨
      (session.poll status).2.pending = session.pending := by
  rcases session.poll_cases status with
    ⟨-, he⟩ | ⟨p, -, -, ⟨-, he⟩ | ⟨-, ⟨found, -, he⟩ | ⟨fault, -, he⟩⟩⟩
  · rw [he]; exact Or.inr rfl
  · rw [he]; exact Or.inl rfl
  · rw [he]; exact Or.inl rfl
  · rw [he]; exact Or.inl rfl

end Session

end Launcher
