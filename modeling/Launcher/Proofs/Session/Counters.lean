import Launcher.Proofs.Session.Memo
import Launcher.Proofs.Session.View

/-!
# The counters add up

Two parts of a session count its searches. The tally counts those that gave a result, apart from
those that were answered from memory; the memo counts what it held and what it did not. They are
changed in different places: searching at once changes both, a poll that shows something changes the
tally alone, and a search that fails changes the memo alone.

So the counters are kept against a log of what happens (`SearchLog`): which queries the search has
been called with at once, how many of these calls failed, and how often polling has shown something.
The calls are written down by the search itself, as the memo makes them. `step_counting` says what
one event may count, and `Counters.Balanced` is the invariant.

> **`counters_add_up`** tally, memo and log after every history of a desk, and that no search at
> once fails where only texts are asked for
-/

namespace Launcher

/-! ## What has been searched -/

/-- What has been searched. -/
structure SearchLog where
  /-- The queries that have been searched at once. -/
  searches : List Query
  /-- How many of these searches failed. -/
  failed : Nat
  /-- How often polling has shown something. -/
  polled : Nat

/-- What a session counts. -/
structure Counters where
  tally : Tally
  hits : Nat
  misses : Nat

namespace Counters

variable {counters : Counters} {searches : List Query} {failed polls : Nat}

/-- An answer from memory is counted. -/
def recalled (counters : Counters) : Counters :=
  { counters with tally := counters.tally.record true, hits := counters.hits + 1 }

/-- A query that is not in memory is counted. -/
def missed (counters : Counters) : Counters := { counters with misses := counters.misses + 1 }

/-- The result of a search is counted. -/
def scored (counters : Counters) : Counters :=
  { counters with tally := counters.tally.record false }

/-- The counters agree with each other and with the log. -/
structure Balanced (counters : Counters) (log : SearchLog) : Prop where
  total : counters.tally.total = counters.tally.cached + counters.tally.scored
  cached : counters.tally.cached = counters.hits
  misses : counters.misses = log.searches.length
  scored : counters.tally.scored + log.failed = counters.misses + log.polled

theorem Balanced.recalled (h : counters.Balanced ⟨searches, failed, polls⟩) :
    counters.recalled.Balanced ⟨searches, failed, polls⟩ := by
  obtain ⟨htotal, hcached, hmisses, hscored⟩ := h
  refine ⟨?_, congrArg (· + 1) hcached, hmisses, hscored⟩
  show counters.tally.total + 1 = counters.tally.cached + 1 + counters.tally.scored
  omega

/-- A search that fails is counted by the memo alone. -/
theorem Balanced.missed (h : counters.Balanced ⟨searches, failed, polls⟩) (query : Query) :
    counters.missed.Balanced ⟨searches ++ [query], failed + 1, polls⟩ := by
  obtain ⟨htotal, hcached, hmisses, hscored⟩ := h
  refine ⟨htotal, hcached, ?_, ?_⟩
  · rw [List.length_append]
    exact congrArg (· + 1) hmisses
  · show counters.tally.scored + (failed + 1) = counters.misses + 1 + polls
    simp only at hscored
    omega

/-- A search at once is counted by the memo and by the tally. -/
theorem Balanced.searched (h : counters.Balanced ⟨searches, failed, polls⟩) (query : Query) :
    counters.missed.scored.Balanced ⟨searches ++ [query], failed, polls⟩ := by
  obtain ⟨htotal, hcached, hmisses, hscored⟩ := h
  refine ⟨congrArg (· + 1) htotal, hcached, ?_, ?_⟩
  · rw [List.length_append]
    exact congrArg (· + 1) hmisses
  · show counters.tally.scored + 1 + failed = counters.misses + 1 + polls
    simp only at hscored
    omega

/-- A search by the worker is counted by the tally alone. -/
theorem Balanced.polled (h : counters.Balanced ⟨searches, failed, polls⟩) :
    counters.scored.Balanced ⟨searches, failed, polls + 1⟩ := by
  obtain ⟨htotal, hcached, hmisses, hscored⟩ := h
  refine ⟨congrArg (· + 1) htotal, hcached, hmisses, ?_⟩
  show counters.tally.scored + 1 + failed = counters.misses + (polls + 1)
  simp only at hscored
  omega

end Counters

/-! ## Searching at once -/

namespace Session

variable {session : Session} {query : Query} {log : SearchLog}

/-- What the session counts. -/
def counters (session : Session) : Counters :=
  ⟨session.tally, session.memo.hits, session.memo.misses⟩

/-- The search of the catalog in use. -/
def lookUp (session : Session) (query : Query) : Except Fault (List (Match Float)) :=
  session.index.find query.value session.limit

/-- Searching at once asks the memo for the search of the catalog in use. -/
theorem memo_run (session : Session) (query : Query) :
    (session.run query).2.memo = (session.memo.getOrCompute query session.lookUp).2 := by
  rw [run_eq]
  unfold Memo.holds Memo.getOrCompute lookUp
  cases session.memo.find? query with
  | some result => rfl
  | none => cases session.index.find query.value session.limit <;> rfl

/-- The log after a query has been asked for at once: the memo calls the search or does not
(`memo_run`), and the search may fail. -/
def entered (session : Session) (query : Query) (log : SearchLog) : SearchLog :=
  let asked := session.memo.getOrComputeOn query (Memo.recorded session.lookUp) log.searches
  { log with
    searches := asked.2.2
    failed := log.failed + if (session.run query).1.isOk then 0 else 1 }

/-- Searching at once keeps the counters balanced. -/
theorem balanced_run (h : session.counters.Balanced log) (query : Query) :
    (session.run query).2.counters.Balanced (session.entered query log) := by
  unfold entered
  rw [Memo.getOrComputeOn_recorded, run_eq]
  by_cases hholds : session.memo.holds query = true
  · rw [if_pos hholds, if_pos hholds]
    exact h.recalled
  · rw [if_neg hholds, if_neg hholds]
    cases session.index.find query.value session.limit with
    | error fault => exact h.missed query
    | ok found => exact h.searched query

/-- The search that a session starts with is of the empty query. -/
theorem balanced_start {config : Config} {entries : List Entry}
    (hstart : start config entries = .ok session) :
    session.counters.Balanced ⟨[Query.ofText ""], 0, 0⟩ := by
  obtain ⟨number, index, cursor, debounce, -, -, -, -, flag, hrun⟩ := start_cases hstart
  have hblank : (blank number index cursor debounce).counters.Balanced ⟨[], 0, 0⟩ :=
    ⟨rfl, rfl, rfl, rfl⟩
  have hfirst : (blank number index cursor debounce).entered (Query.ofText "") ⟨[], 0, 0⟩
      = ⟨[Query.ofText ""], 0, 0⟩ := by
    unfold entered
    rw [hrun, Memo.getOrComputeOn_recorded, Memo.holds_of_slot_eq_none rfl]
    rfl
  have hsearched := balanced_run hblank (Query.ofText "")
  rw [hrun, hfirst] at hsearched
  exact hsearched

/-- A session that is ready finds every text. -/
theorem Ready.failed_entered {limit : Nat} (h : session.Ready limit) (hq : query.IsText) :
    (session.entered query log).failed = log.failed := by
  unfold entered
  obtain ⟨found, hfound, -⟩ := h.find hq
  rw [run_eq, hfound]
  split <;> rfl

end Session

/-! ## One event -/

/-- The event polls for the background search. -/
def Event.isPoll : Event → Bool
  | .poll => true
  | .closing event => event.isPoll
  | _ => false

namespace Desk

variable {desk : Desk} {log : SearchLog}

/-- The query that waits, with the session in which it is searched. -/
def flushes? (desk : Desk) : Option (Session × Query) :=
  desk.session.waiting?.map fun held => (desk.session.released, held.query)

/-- The query that an event asks for at once, with the session in which it is asked for. -/
def asks? (desk : Desk) : Event → Option (Session × Query)
  | .text query => if desk.session.debounce.isNone then some (desk.session, query) else none
  | .tick now =>
    match desk.session.debounce with
    | none => none
    | some debounce =>
      match debounce.isDue (if now.isNull then desk.clock else now) with
      | .ok true => desk.flushes?
      | _ => none
  | .flush => desk.flushes?
  | .rebuild entries =>
    match Index.build desk.session.index.weights entries with
    | .ok index => some (desk.session.renewed index, desk.session.query)
    | .error _ => none
  | .submit query => if desk.session.memo.holds query then some (desk.session, query) else none
  | .closing event => desk.asks? event
  | _ => none

/-- The event polls, and shows something. -/
def polls (desk : Desk) (event : Event) : Bool := event.isPoll && changesView (desk.step event).1

/-- The log after an event. -/
def entered (desk : Desk) (log : SearchLog) (event : Event) : SearchLog :=
  let asked := match desk.asks? event with
    | some (session, query) => session.entered query log
    | none => log
  { asked with polled := asked.polled + if desk.polls event then 1 else 0 }

/-- The log after a history. -/
def logAfter (desk : Desk) (log : SearchLog) : List Event → SearchLog
  | [] => log
  | event :: rest => (desk.step event).2.logAfter (desk.entered log event) rest

/-- What an event counts. -/
inductive Counting (desk : Desk) (event : Event) : Prop
  /-- A query is asked for at once, in a session that has counted as much as the one of the desk. -/
  | asked {session : Session} {query : Query} (hasks : desk.asks? event = some (session, query))
    (hpolls : desk.polls event = false) (hbefore : session.counters = desk.session.counters)
    (hafter : (desk.step event).2.session.counters = (session.run query).2.counters)
  /-- What a worker has found is shown. -/
  | polled (hasks : desk.asks? event = none) (hpolls : desk.polls event = true)
    (hafter : (desk.step event).2.session.counters = desk.session.counters.scored)
  | nothing (hasks : desk.asks? event = none) (hpolls : desk.polls event = false)
    (hafter : (desk.step event).2.session.counters = desk.session.counters)

/-- A query that waits is searched by flushing, in a session that has counted as much. -/
theorem flushes?_eq_some {session : Session} {query : Query}
    (h : desk.flushes? = some (session, query)) :
    desk.session.flush = session.run query ∧ session.counters = desk.session.counters := by
  obtain ⟨held, hw, he⟩ := Option.map_eq_some_iff.mp h
  cases he
  rw [Session.flush_eq, hw]
  exact ⟨rfl, rfl⟩

/-- Where nothing waits flushing does nothing. -/
theorem flushes?_eq_none (h : desk.flushes? = none) :
    desk.session.flush = (.ok false, desk.session) := by
  rw [Session.flush_eq, Option.map_eq_none_iff.mp h]

/-- An event that flushes counts what searching the waiting query counts. -/
theorem counting_of_flush {event : Event} (hasks : desk.asks? event = desk.flushes?)
    (hpolls : desk.polls event = false)
    (hafter : (desk.step event).2.session = desk.session.flush.2) : desk.Counting event := by
  cases hflushes : desk.flushes? with
  | none =>
    rw [flushes?_eq_none hflushes] at hafter
    exact .nothing (hasks.trans hflushes) hpolls (congrArg Session.counters hafter)
  | some asked =>
    obtain ⟨hrun, hbefore⟩ := flushes?_eq_some hflushes
    rw [hrun] at hafter
    exact .asked (hasks.trans hflushes) hpolls hbefore (congrArg Session.counters hafter)

/-- An event beside the session counts nothing. -/
theorem counting_of_aside {event : Event} (h : event.IsAside) : desk.Counting event := by
  have hafter := congrArg Session.counters (step_aside h desk).1
  cases event with
  | clock | execute | runJobs | failJobs | failJob | refuse | wait => exact .nothing rfl rfl hafter
  | text | tick | flush | navigate | rebuild | submit | poll | close | closing => exact h.elim

/-- A text that is typed is searched, or held and not counted. -/
theorem counting_text (desk : Desk) (query : Query) : desk.Counting (.text query) := by
  have hafter : (desk.step (.text query)).2.session
      = (desk.session.textChanged query desk.clock).2 := rfl
  rcases desk.session.textChanged_cases query desk.clock with
    ⟨hnone, he⟩ | ⟨debounce, hsome, ⟨fault, he⟩ | ⟨holding, -, he⟩⟩
  · have hasks : desk.asks? (.text query) = some (desk.session, query) := by
      unfold asks?
      rw [hnone]
      rfl
    rw [he] at hafter
    exact .asked hasks rfl rfl (congrArg Session.counters hafter)
  all_goals
    -- a query that is held back, or that cannot be, is not asked for at once
    have hasks : desk.asks? (.text query) = none := by
      unfold asks?
      rw [hsome]
      rfl
    rw [he] at hafter
  · exact .nothing hasks rfl (congrArg Session.counters hafter)
  · exact .nothing hasks rfl (by rw [hafter]; rfl)

/-- A tick counts what flushing counts, or nothing. -/
theorem counting_tick (desk : Desk) (now : Value) : desk.Counting (.tick now) := by
  have hafter : (desk.step (.tick now)).2.session
      = (desk.session.tick (if now.isNull then desk.clock else now)).2 := rfl
  have hasks : desk.asks? (.tick now) = match desk.session.debounce with
    | none => none
    | some debounce =>
      match debounce.isDue (if now.isNull then desk.clock else now) with
      | .ok true => desk.flushes?
      | _ => none := rfl
  unfold Session.tick at hafter
  cases hd : desk.session.debounce with
  | none =>
    rw [hd] at hasks hafter
    exact .nothing hasks rfl (congrArg Session.counters hafter)
  | some debounce =>
    rw [hd] at hasks hafter
    simp only at hasks hafter
    cases hdue : debounce.isDue (if now.isNull then desk.clock else now) with
    | error fault =>
      rw [hdue] at hasks hafter
      exact .nothing hasks rfl (congrArg Session.counters hafter)
    | ok due =>
      rw [hdue] at hasks hafter
      cases due with
      | false => exact .nothing hasks rfl (congrArg Session.counters hafter)
      | true => exact counting_of_flush hasks rfl hafter

/-- A new catalog is searched for the query shown; one that is refused counts nothing. -/
theorem counting_rebuild (desk : Desk) (entries : List Entry) :
    desk.Counting (.rebuild entries) := by
  have hafter : (desk.step (.rebuild entries)).2.session = (desk.session.rebuild entries).2 := rfl
  rcases desk.session.rebuild_cases entries with ⟨fault, hbuild, he⟩ | ⟨index, hbuild, he⟩
  · rw [he] at hafter
    refine .nothing ?_ rfl (congrArg Session.counters hafter)
    unfold asks?
    rw [hbuild]
  · rw [he] at hafter
    have hasks : desk.asks? (.rebuild entries)
        = some (desk.session.renewed index, desk.session.query) := by
      unfold asks?
      rw [hbuild]
    exact .asked hasks rfl rfl (congrArg Session.counters hafter)

/-- A query in memory is answered at once; any other is counted when it is shown. -/
theorem counting_submit (desk : Desk) (query : Query) : desk.Counting (.submit query) := by
  rcases desk.submit_cases query with ⟨hholds, he⟩ | ⟨hholds, ⟨-, he⟩ | ⟨-, he⟩⟩
  · refine .asked (if_pos hholds) rfl rfl ?_
    rw [he, Session.run_eq, if_pos hholds]
  all_goals
    have hasks : desk.asks? (.submit query) = none := by
      unfold asks?
      rw [hholds]
      rfl
  · exact .nothing hasks rfl (by rw [he]; rfl)
  · exact .nothing hasks rfl (by rw [he]; rfl)

/-- Polling counts when it shows something. -/
theorem counting_poll (desk : Desk) : desk.Counting .poll := by
  have hpolls : desk.polls .poll
      = changesView ((desk.session.poll desk.status).1.map .changed) := rfl
  have hafter : (desk.step .poll).2.session = (desk.session.poll desk.status).2 := rfl
  rcases desk.session.poll_cases desk.status with
    ⟨-, he⟩ | ⟨pending, -, -, ⟨-, he⟩ | ⟨-, ⟨found, -, he⟩ | ⟨fault, -, he⟩⟩⟩
  all_goals rw [he] at hpolls hafter
  · exact .nothing rfl hpolls (by rw [hafter])
  · exact .nothing rfl hpolls (by rw [hafter]; rfl)
  · exact .polled rfl hpolls (by rw [hafter]; rfl)
  · exact .nothing rfl hpolls (by rw [hafter]; rfl)

/-- **What one event counts.** -/
theorem step_counting (desk : Desk) (event : Event) : desk.Counting event := by
  induction event with
  | text query => exact desk.counting_text query
  | tick now => exact desk.counting_tick now
  | flush => exact counting_of_flush rfl rfl rfl
  | rebuild entries => exact desk.counting_rebuild entries
  | submit query => exact desk.counting_submit query
  | poll => exact desk.counting_poll
  | navigate given =>
    rcases desk.navigate_cases given with ⟨fault, he⟩ | ⟨cursor, he⟩
    · exact .nothing rfl rfl (by rw [he])
    · exact .nothing rfl rfl (by rw [he]; rfl)
  | close => exact .nothing rfl rfl rfl
  | closing event ih =>
    -- closing the session after an event counts nothing more
    cases ih with
    | asked hasks hpolls hbefore hafter => exact .asked hasks hpolls hbefore hafter
    | polled hasks hpolls hafter => exact .polled hasks hpolls hafter
    | nothing hasks hpolls hafter => exact .nothing hasks hpolls hafter
  | clock | execute | runJobs | failJobs | failJob | refuse | wait =>
    exact counting_of_aside trivial

/-- One event keeps the counters balanced. -/
theorem balanced_step (h : desk.session.counters.Balanced log) (event : Event) :
    (desk.step event).2.session.counters.Balanced (desk.entered log event) := by
  unfold entered
  cases desk.step_counting event with
  | @asked session query hasks hpolls hbefore hafter =>
    rw [hasks, hpolls, hafter]
    exact Session.balanced_run (by rw [hbefore]; exact h) query
  | polled hasks hpolls hafter =>
    rw [hasks, hpolls, hafter]
    exact h.polled
  | nothing hasks hpolls hafter =>
    rw [hasks, hpolls, hafter]
    exact h

/-- Where only texts are asked for, only texts are searched at once, in sessions that are ready. -/
theorem Sound.asks {limit : Nat} {session : Session} {query : Query} (h : desk.Sound limit) :
    ∀ event : Event, event.IsTyped → desk.asks? event = some (session, query) →
      session.Ready limit ∧ query.IsText := by
  have hflushes : desk.flushes? = some (session, query) →
      session.Ready limit ∧ query.IsText := by
    intro hflushes
    obtain ⟨held, hw, he⟩ := Option.map_eq_some_iff.mp hflushes
    cases he
    exact ⟨h.settled.released.toReady, h.settled.held held hw⟩
  intro event
  induction event with
  | text typed =>
    intro htyped hasks
    unfold asks? at hasks
    split at hasks
    · cases hasks
      exact ⟨h.settled.toReady, htyped⟩
    · cases hasks
  | tick now =>
    intro _ hasks
    unfold asks? at hasks
    split at hasks
    · cases hasks
    · split at hasks
      · exact hflushes hasks
      · cases hasks
  | flush =>
    intro _ hasks
    exact hflushes hasks
  | rebuild entries =>
    intro _ hasks
    unfold asks? at hasks
    split at hasks
    · next index hbuild =>
      cases hasks
      exact ⟨h.settled.ready_renewed hbuild, h.settled.text⟩
    · cases hasks
  | submit given =>
    intro htyped hasks
    unfold asks? at hasks
    split at hasks
    · cases hasks
      exact ⟨h.settled.toReady, htyped⟩
    · cases hasks
  | closing event ih =>
    intro htyped hasks
    exact ih htyped hasks
  | clock | navigate | execute | poll | close | runJobs | failJobs | failJob | refuse | wait =>
    intro _ hasks
    cases hasks

/-- Where only texts are asked for, no search at once fails. -/
theorem Sound.failed_entered {limit : Nat} {event : Event} (h : desk.Sound limit)
    (htyped : event.IsTyped) : (desk.entered log event).failed = log.failed := by
  unfold entered
  cases hasks : desk.asks? event with
  | none => rfl
  | some asked =>
    obtain ⟨hready, hquery⟩ := h.asks event htyped hasks
    exact hready.failed_entered hquery

/-! ## A history -/

/-- A history keeps the counters balanced; by induction on it. -/
theorem balanced_history (events : List Event) {desk : Desk} {log : SearchLog}
    (h : desk.session.counters.Balanced log) :
    (desk.history events).session.counters.Balanced (desk.logAfter log events) := by
  induction events generalizing desk log with
  | nil => exact h
  | cons event rest ih => exact ih (balanced_step h event)

/-- In a history of texts no search at once fails. -/
theorem Sound.failed_history {limit : Nat} (events : List Event) {desk : Desk} {log : SearchLog}
    (h : desk.Sound limit) (htyped : ∀ event ∈ events, event.IsTyped) :
    (desk.logAfter log events).failed = log.failed := by
  induction events generalizing desk log with
  | nil => rfl
  | cons event rest ih =>
    obtain ⟨hevent, hrest⟩ := List.forall_mem_cons.mp htyped
    exact (ih (step_sound event hevent h) hrest).trans (h.failed_entered hevent)

/-- **The counters add up.** After every history of a desk, whatever of it failed: the searches
counted are those answered from memory and those that were scored, the former are the hits of the
memo, the misses of the memo are the searches at once, beginning with that of the empty query at the
start, and the searches scored are those of them that did not fail and those that polling has shown.
With a positive whole limit and numeric weights no search of a text fails, so that the searches
scored are then the misses and what polling has shown. -/
theorem counters_add_up {config : Config} {entries : List Entry} {session : Session}
    (hstart : Session.start config entries = .ok session) (handler : Handler)
    (events : List Event) :
    let desk := create session handler
    let now := (desk.history events).session
    let log := desk.logAfter ⟨[Query.ofText ""], 0, 0⟩ events
    now.tally.total = now.tally.cached + now.tally.scored ∧
    now.tally.cached = now.memo.hits ∧
    now.memo.misses = log.searches.length ∧
    now.tally.scored + log.failed = now.memo.misses + log.polled ∧
    ∀ limit : Nat, config.limit = .int limit → config.weights.Numeric →
      (∀ event ∈ events, event.IsTyped) →
      now.tally.scored = now.memo.misses + log.polled := by
  intro desk now log
  have hfirst : desk.session.counters.Balanced ⟨[Query.ofText ""], 0, 0⟩ :=
    Session.balanced_start hstart
  obtain ⟨htotal, hcached, hmisses, hscored⟩ := balanced_history events hfirst
  refine ⟨htotal, hcached, hmisses, hscored, ?_⟩
  intro limit hlimit hweights htyped
  have hsound : desk.Sound limit := opened_sound (.intro handler hlimit hweights hstart)
  have hnone : log.failed = 0 := hsound.failed_history events htyped
  rw [hnone] at hscored
  exact hscored

/-- A text that is held is searched, a background search is shown and asked for again, a catalog
with an id twice and one without are given, and the worker refuses. -/
def trialSearches : List Event :=
  [.text (Query.ofText "goo"), .flush, .submit (Query.ofText "co"), .runJobs none, .closing .poll,
    .submit (Query.ofText "co"), .rebuild (trialEntries ++ trialEntries), .rebuild trialEntries,
    .refuse true, .submit (Query.ofText "calc")]

/-- Of the five searches counted one is answered from memory and one is shown by polling. -/
theorem trial_counters_add_up : ∃ session,
    Session.start trialConfig trialEntries = .ok session ∧ trialConfig.limit = .int 2 ∧
    trialConfig.weights.Numeric ∧ (∀ event ∈ trialSearches, event.IsTyped) ∧
    let now := ((create session .absent).history trialSearches).session
    let log := (create session .absent).logAfter ⟨[Query.ofText ""], 0, 0⟩ trialSearches
    now.tally = ⟨5, 1, 4⟩ ∧ now.tally.scored = now.memo.misses + log.polled ∧
    now.memo.misses = log.searches.length ∧ log.polled = 1 := by
  obtain ⟨desk, hdesk⟩ := exists_trial
  obtain ⟨session, hstart, -⟩ := start_of_trial hdesk
  have hweights : trialConfig.weights.Numeric := ⟨Weights.standard, rfl⟩
  have htyped : ∀ event ∈ trialSearches, event.IsTyped := by
    simp [trialSearches, Event.IsTyped]
  have htally : (Session.start trialConfig trialEntries).toOption.map (fun session =>
      let now := ((create session .absent).history trialSearches).session
      (now.tally, now.memo.misses)) = some (⟨5, 1, 4⟩, 3) := by
    decide +kernel
  rw [hstart] at htally
  obtain ⟨hcounted, hmissed⟩ := Prod.mk.inj (Option.some.inj htally)
  obtain ⟨-, -, hmisses, -, hscored⟩ := counters_add_up hstart .absent trialSearches
  have hsum := hscored 2 rfl hweights htyped
  refine ⟨session, hstart, rfl, hweights, htyped, hcounted, hsum, hmisses, ?_⟩
  rw [hcounted, hmissed] at hsum
  -- four searches were scored, and three of them were misses
  exact (Nat.add_left_cancel hsum).symm

end Desk

end Launcher
