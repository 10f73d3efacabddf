import Launcher.Proofs.Session.Course

/-!
# Holding queries changes when they are searched, not what

A session that holds queries until typing rests skips some of the searches that a session without
delay does, and which ones depends on the ticks. What somebody has asked for does not depend on
them: it is the query that waits, or the query shown if none waits (`Session.asked`), together with
the catalog that is searched (`Session.request`). Each event of typing changes a request in one way,
whether queries are held or not (`request_step`), so a whole history does (`request_history`), and a
flush shows what has been asked for.

> `flushed_view_eq`: after the same typing and one flush, a session that holds queries and one that
> does not show the same query, the same matches and the same results.
-/

namespace Launcher

/-- The event is one of typing, or of the clock: it shows a time that a deadline can be set from. -/
def Event.IsTyping : Event → Prop
  | .clock time => ∃ x, time.asDouble = .ok x
  | .text query => query.IsText
  | .tick _ | .flush | .navigate _ | .rebuild _ => True
  | _ => False

/-- The index of other entries, or the same index if an id of theirs is repeated. -/
def Index.replaced (index : Index) (entries : List Entry) : Index :=
  match Index.build index.weights entries with
  | .ok other => other
  | .error _ => index

/-- What the event makes of a request, which is a query and the catalog that it asks for. -/
def Event.ask : Event → Query × Index → Query × Index
  | .text query, request => (query, request.2)
  | .rebuild entries, request => (request.1, request.2.replaced entries)
  | _, request => request

namespace Session

/-- The query that was asked for last: the one that waits, or the one shown. -/
def asked (session : Session) : Query := (session.waiting?.map Held.query).getD session.query

/-- What was asked for last, and the catalog that it is searched in. -/
def request (session : Session) : Query × Index := (session.asked, session.index)

variable {limit : Nat} {session : Session} {query : Query}

/-- Where nothing waits what is asked for is what is shown. -/
theorem asked_of_none (h : session.waiting? = none) : session.asked = session.query := by
  unfold asked
  rw [h]
  rfl

/-- Where a query waits it is the one asked for. -/
theorem asked_of_some {held : Held} (h : session.waiting? = some held) :
    session.asked = held.query := by
  unfold asked
  rw [h]
  rfl

/-- Without a debounce what is asked for is what is shown. -/
theorem asked_of_no_debounce (h : session.debounce = none) : session.asked = session.query := by
  refine asked_of_none ?_
  unfold waiting?
  rw [h]
  rfl

/-! ## The operations -/

/-- Searching at once shows the query, found or remembered. -/
theorem Settled.query_run (h : session.Settled limit) (hq : query.IsText) :
    (session.run query).2.query = query ∧ (session.run query).2.index = session.index ∧
      (session.run query).2.debounce = session.debounce := by
  rcases h.run_cases hq with ⟨hsame, he⟩ | ⟨-, found, -, he⟩
  · rw [he, hsame]; exact ⟨rfl, rfl, rfl⟩
  · rw [he]; exact ⟨rfl, rfl, rfl⟩

/-- A flush shows what has been asked for. -/
theorem Settled.query_flush (h : session.Settled limit) :
    session.flush.2.query = session.asked ∧ session.flush.2.request = session.request := by
  rw [flush_eq]
  cases hw : session.waiting? with
  | none => exact ⟨(asked_of_none hw).symm, rfl⟩
  | some held =>
    obtain ⟨hquery, hindex, hdebounce⟩ := h.released.query_run (h.held held hw)
    have hnone : (session.released.run held.query).2.waiting? = none := by
      rw [waiting?_run, waiting?_released]
    refine ⟨hquery.trans (asked_of_some hw).symm, Prod.ext ?_ hindex⟩
    exact (asked_of_none hnone).trans (hquery.trans (asked_of_some hw).symm)

/-- A tick changes nothing about what is asked for. -/
theorem Settled.request_tick (h : session.Settled limit) (now : Value) :
    (session.tick now).2.request = session.request := by
  rcases session.tick_cases now with ⟨fault, he⟩ | he | ⟨-, he⟩
  · rw [he]
  · rw [he]
  · rw [he]; exact h.query_flush.2

/-- Typing asks for the text typed, be it held or searched. -/
theorem Settled.request_textChanged (h : session.Settled limit) (hq : query.IsText) {now : Value}
    {x : Float} (hnow : now.asDouble = .ok x) :
    (session.textChanged query now).2.request = (query, session.index) := by
  unfold Session.textChanged
  cases hd : session.debounce with
  | none =>
    obtain ⟨hquery, hindex, hdebounce⟩ := h.query_run hq
    exact Prod.ext ((asked_of_no_debounce (hdebounce.trans hd)).trans hquery) hindex
  | some debounce =>
    have hhold : debounce.hold query now
        = .ok { debounce with held := some ⟨x + debounce.interval, query⟩ } := by
      unfold Debounce.hold
      rw [hnow]
      rfl
    simp only [hhold]
    -- a text is never null, so it waits
    obtain ⟨s, rfl⟩ := hq
    rfl

/-- Replacing the catalog leaves alone what has been asked for. -/
theorem Settled.request_rebuild (h : session.Settled limit) (entries : List Entry) :
    (session.rebuild entries).2.request = (session.asked, session.index.replaced entries) := by
  rcases h.rebuild_cases entries with ⟨fault, hb, he⟩ | ⟨index, found, hb, -, he⟩
  · rw [he, Index.replaced, hb]
    rfl
  · rw [he, Index.replaced, hb]
    rfl

/-! ## The start -/

/-- A session starts by searching the empty query in its catalog. -/
theorem start_searched {config : Config} {entries : List Entry}
    (h : start config entries = .ok session) :
    ∃ number index cursor debounce found,
      config.limit.positive "limit" = .ok number ∧
      Index.build config.weights entries = .ok index ∧
      Cursor.create config.pageSize = .ok cursor ∧
      openDebounce config.debounceMs = .ok debounce ∧
      index.find (.text "") number = .ok found ∧
      session = (blank number index cursor debounce).searched (Query.ofText "") found := by
  obtain ⟨number, index, cursor, debounce, hn, hi, hc, hd, flag, hr⟩ := start_cases h
  -- nothing is remembered yet, so the query is not found in memory
  rw [run_eq, Memo.holds_of_slot_eq_none rfl, if_neg Bool.false_ne_true] at hr
  split at hr
  · cases hr
  · next found hfound =>
    cases hr
    exact ⟨number, index, cursor, debounce, found, hn, hi, hc, hd, hfound, rfl⟩

/-- A new session asks for the empty query. -/
theorem request_start {config : Config} {entries : List Entry}
    (h : start config entries = .ok session) :
    ∃ index, Index.build config.weights entries = .ok index ∧
      session.request = (Query.ofText "", index) := by
  have hnone := waiting?_start h
  obtain ⟨number, index, cursor, debounce, found, -, hi, -, -, -, rfl⟩ := start_searched h
  exact ⟨index, hi, Prod.ext (asked_of_none hnone) rfl⟩

/-- Where a session can be started, one without delay can be started too. -/
theorem exists_start_without_delay {config : Config} {entries : List Entry}
    (h : start config entries = .ok session) :
    ∃ direct, start (config.put .debounceMs (.int 0)) entries = .ok direct := by
  obtain ⟨number, index, cursor, -, found, hn, hi, hc, -, hfound, -⟩ := start_searched h
  have hdebounce : openDebounce (.int 0) = .ok none := rfl
  have hrun : (blank number index cursor none).run (Query.ofText "")
      = (.ok true, (blank number index cursor none).searched (Query.ofText "") found) := by
    have hfind : (blank number index cursor none).index.find (Query.ofText "").value
        (blank number index cursor none).limit = .ok found := hfound
    rw [run_eq, Memo.holds_of_slot_eq_none rfl, if_neg Bool.false_ne_true, hfind]
  refine ⟨(blank number index cursor none).searched (Query.ofText "") found, ?_⟩
  show (do
    let limit ← config.limit.positive "limit"
    let index ← Index.build config.weights entries
    let cursor ← Cursor.create config.pageSize
    let debounce ← openDebounce (.int 0)
    let begun := (blank limit index cursor debounce).run (Query.ofText "")
    begun.1.map fun _ => begun.2) = _
  rw [hn, hi, hc, hdebounce]
  show (((blank number index cursor none).run (Query.ofText "")).1.map
    fun _ => ((blank number index cursor none).run (Query.ofText "")).2) = _
  rw [hrun]
  rfl

end Session

namespace Desk

/-- The session is settled, and the clock shows a time. -/
structure Timed (limit : Nat) (desk : Desk) : Prop where
  settled : desk.session.Settled limit
  clock : ∃ x, desk.clock.asDouble = .ok x

variable {limit : Nat} {desk : Desk}

/-! ## Events and histories of typing -/

/-- **What one event asks for**, whether queries are held or not. -/
theorem Timed.request_step (h : desk.Timed limit) {event : Event} (htyping : event.IsTyping) :
    (desk.step event).2.session.request = event.ask desk.session.request := by
  cases event with
  | clock time => rfl
  | text query =>
    obtain ⟨x, hx⟩ := h.clock
    exact h.settled.request_textChanged htyping hx
  | tick now => exact h.settled.request_tick _
  | flush => exact h.settled.query_flush.2
  | navigate given =>
    rcases desk.navigate_cases given with ⟨fault, he⟩ | ⟨cursor, he⟩
    · rw [he]; rfl
    · rw [he]; rfl
  | rebuild entries => exact h.settled.request_rebuild entries
  | execute | submit | poll | close | runJobs | failJobs | failJob | refuse | wait | closing =>
    exact htyping.elim

/-- Typing and looking on keep times to be numbers. -/
theorem Timed.step (h : desk.Timed limit) {event : Event} (htyping : event.IsTyping) :
    (desk.step event).2.Timed limit := by
  cases event with
  | clock time => exact ⟨h.settled, htyping⟩
  | text query => exact ⟨h.settled.textChanged htyping _, h.clock⟩
  | tick now => exact ⟨h.settled.tick _, h.clock⟩
  | flush => exact ⟨h.settled.flush, h.clock⟩
  | navigate given =>
    rcases desk.navigate_cases given with ⟨fault, he⟩ | ⟨cursor, he⟩
    · rw [he]; exact h
    · rw [he]; exact ⟨h.settled.withCursor cursor, h.clock⟩
  | rebuild entries => exact ⟨h.settled.rebuild entries, h.clock⟩
  | execute | submit | poll | close | runJobs | failJobs | failJob | refuse | wait | closing =>
    exact htyping.elim

/-- What a history of typing asks for. -/
theorem Timed.request_history : ∀ (events : List Event) {desk : Desk}, desk.Timed limit →
    (∀ event ∈ events, event.IsTyping) →
      (desk.history events).Timed limit ∧ (desk.history events).session.request
        = events.foldl (fun request event => event.ask request) desk.session.request := by
  intro events
  induction events with
  | nil => exact fun h _ => ⟨h, rfl⟩
  | cons event rest ih =>
    intro desk h htyping
    obtain ⟨hevent, hrest⟩ := List.forall_mem_cons.mp htyping
    obtain ⟨htimed, hrequest⟩ := ih (h.step hevent) hrest
    exact ⟨htimed, by rw [history_cons, hrequest, h.request_step hevent, List.foldl_cons]⟩

/-- Two desks that ask for the same show the same after the same typing and a flush. -/
theorem Timed.same_view_of_flush {other : Desk} (h : desk.Timed limit)
    (hother : other.Timed limit) (hsame : other.session.request = desk.session.request)
    {events : List Event} (htyping : ∀ event ∈ events, event.IsTyping) :
    let first := (desk.history (events ++ [.flush])).session
    let second := (other.history (events ++ [.flush])).session
    second.query = first.query ∧ second.shown = first.shown ∧
      ∃ results, second.results = .ok results ∧ first.results = .ok results := by
  obtain ⟨htimed, hrequest⟩ := request_history events h htyping
  obtain ⟨htimed', hrequest'⟩ := request_history events hother htyping
  rw [hsame, ← hrequest] at hrequest'
  obtain ⟨hquery, hafter⟩ := htimed.settled.query_flush
  obtain ⟨hquery', hafter'⟩ := htimed'.settled.query_flush
  have hq : (other.history events).session.flush.2.query
      = (desk.history events).session.flush.2.query := by
    rw [hquery, hquery']
    exact congrArg Prod.fst hrequest'
  have hi : (other.history events).session.flush.2.index
      = (desk.history events).session.flush.2.index :=
    congrArg Prod.snd (hafter'.trans (hrequest'.trans hafter.symm))
  intro first second
  have hfirst : first = (desk.history events).session.flush.2 := by
    show (desk.history (events ++ [.flush])).session = _
    rw [history_append]
    rfl
  have hsecond : second = (other.history events).session.flush.2 := by
    show (other.history (events ++ [.flush])).session = _
    rw [history_append]
    rfl
  rw [hfirst, hsecond]
  exact ⟨hq, htimed.settled.flush.same_view htimed'.settled.flush hi hq⟩

/-- A new desk has a clock that shows a number. -/
theorem Timed.create {config : Config} {entries : List Entry} {session : Session}
    (hstart : Session.start config entries = .ok session) (hlimit : config.limit = .int limit)
    (hweights : config.weights.Numeric) (handler : Handler) :
    (Desk.create session handler).Timed limit :=
  ⟨Session.settled_start hstart hlimit hweights, 0.0, rfl⟩

/-- **Holding queries changes when they are searched, not what.** Where a session can be started
that holds queries for some time, so can one that does not. After the same typing, with the same
ticks and catalogs, and one flush, both show the same. -/
theorem flushed_view_eq {config : Config} {entries : List Entry} {session : Session}
    (hlimit : config.limit = .int limit) (hweights : config.weights.Numeric)
    (hstart : Session.start config entries = .ok session) (handler : Handler) :
    ∃ direct, Session.start (config.put .debounceMs (.int 0)) entries = .ok direct ∧
      ∀ events : List Event, (∀ event ∈ events, event.IsTyping) →
        let held := ((create session handler).history (events ++ [.flush])).session
        let searched := ((create direct handler).history (events ++ [.flush])).session
        searched.query = held.query ∧ searched.shown = held.shown ∧
          ∃ results, searched.results = .ok results ∧ held.results = .ok results := by
  obtain ⟨direct, hdirect⟩ := Session.exists_start_without_delay hstart
  refine ⟨direct, hdirect, fun events htyping => ?_⟩
  obtain ⟨index, hindex, hrequest⟩ := Session.request_start hstart
  obtain ⟨index', hindex', hrequest'⟩ := Session.request_start hdirect
  have hsame : direct.request = session.request := by
    have hweights' : (config.put .debounceMs (.int 0)).weights = config.weights := rfl
    rw [hweights', hindex] at hindex'
    cases hindex'
    rw [hrequest, hrequest']
  have hheld := Timed.create hstart hlimit hweights handler
  exact hheld.same_view_of_flush (.create hdirect hlimit hweights handler) hsame htyping

/-- Texts that are typed over before they have rested, one that rests, a catalog with an id twice
and a smaller one while a text waits. -/
def trialTyping : List Event :=
  [.text (Query.ofText "co"), .tick .null, .rebuild (trialEntries ++ trialEntries),
    .text (Query.ofText "calc"), .clock (.float 1.0), .tick .null, .navigate (.text "next"),
    .text (Query.ofText "goo"), .tick (.float 1.0), .rebuild trialEntries.tail]

theorem trial_flushed_view : ∃ session, Session.start trialConfig trialEntries = .ok session ∧
    trialConfig.limit = .int 2 ∧ trialConfig.weights.Numeric ∧
    (∀ event ∈ trialTyping, event.IsTyping) ∧
    ∃ direct, Session.start (trialConfig.put .debounceMs (.int 0)) trialEntries = .ok direct ∧
      let held := ((create session .absent).history (trialTyping ++ [.flush])).session
      let searched := ((create direct .absent).history (trialTyping ++ [.flush])).session
      searched.query = held.query ∧ searched.shown = held.shown ∧
        ∃ results, searched.results = .ok results ∧ held.results = .ok results := by
  obtain ⟨desk, hdesk⟩ := exists_trial
  obtain ⟨session, hstart, -⟩ := start_of_trial hdesk
  have hlimit : trialConfig.limit = .int (2 : Nat) := rfl
  have hweights : trialConfig.weights.Numeric := ⟨Weights.standard, rfl⟩
  have htime : ∃ x, (Value.float 1.0).asDouble = .ok x := ⟨1.0, rfl⟩
  have htyping : ∀ event ∈ trialTyping, event.IsTyping := by
    simp [trialTyping, Event.IsTyping, htime]
  obtain ⟨direct, hdirect, hview⟩ := flushed_view_eq hlimit hweights hstart .absent
  exact ⟨session, hstart, hlimit, hweights, htyping, direct, hdirect, hview trialTyping htyping⟩

end Desk

end Launcher
