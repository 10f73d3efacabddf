import Launcher.Proofs.Session.Holding
import Launcher.Proofs.Session.View

/-!
# Searching in the background gives what searching at once gives

When queries are handed to the worker one after the other, what is shown lags behind: it depends on
which searches are done and when somebody polls. What will be shown in the end does not: it is the
query of the background search, or the query shown if there is none (`Session.wanted`). `Behind`
says what makes it so: the worker refuses nothing, the background search is of the newest
generation, and no search of a job fails. Every event of that kind keeps a desk so, and only a query
that is submitted changes what is wanted (`Behind.follows`). So in the end the query submitted last
is wanted (`Behind.wanted_history`), and a poll shows it once all jobs are done
(`Behind.query_poll`).

> `background_view_eq`: queries handed to the worker, with polls and finished jobs at any place and
> in any order, show the same query, matches and results as the same queries searched at once, as
> soon as all jobs are done and another poll has been made.
-/

namespace Launcher

/-- The event hands over a text, asks for a result, or lets jobs be done. -/
def Event.IsHanding : Event → Prop
  | .submit query => query.IsText
  | .poll | .runJobs _ | .wait => True
  | _ => False

/-- The query that the event hands over. -/
def Event.submitted? : Event → Option Query
  | .submit query => some query
  | _ => none

/-- The search of the job succeeds, and has not been made to fail. -/
def Job.Able (job : Job) : Prop :=
  (∃ found, job.outcome = .found found) ∧ ∀ fault, job.status ≠ .failed fault

theorem Job.Able.run {job : Job} (h : job.Able) : job.run.Able := by
  obtain ⟨⟨found, hfound⟩, -⟩ := id h
  unfold Job.run
  split
  · exact h
  · exact ⟨⟨found, hfound⟩, fun fault hfailed => by rw [hfound] at hfailed; cases hfailed⟩

/-- An able job that is done has found something. -/
theorem Job.Able.found {job : Job} (h : job.Able) (hdone : job.isDone = true) :
    ∃ found, job.status = .found found := by
  unfold isDone at hdone
  cases hs : job.status with
  | running => rw [hs] at hdone; cases hdone
  | found found => exact ⟨found, rfl⟩
  | failed fault => exact absurd hs (h.2 fault)

namespace Session

/-- The query that will be shown once the background search, if there is one, is done. -/
def wanted (session : Session) : Query := (session.pending.map Pending.query).getD session.query

/-- Without a background search what is wanted is what is shown. -/
theorem wanted_of_none {session : Session} (h : session.pending = none) :
    session.wanted = session.query := by
  unfold wanted
  rw [h]
  rfl

/-- With a background search its query is wanted. -/
theorem wanted_of_some {session : Session} {p : Pending} (h : session.pending = some p) :
    session.wanted = p.query := by
  unfold wanted
  rw [h]
  rfl

/-- A background search that has just been scheduled is of the newest generation. -/
theorem isCurrent_nextPending (session : Session) (query : Query) (ticket : Nat) :
    (session.scheduled query ticket).isCurrent (session.nextPending query ticket) = true := by
  simp [isCurrent, scheduled, refused, nextPending]

end Session

namespace Desk

/-- The desk is behind with its searches, and nothing keeps it from catching up. -/
structure Behind (limit : Nat) (desk : Desk) : Prop where
  sound : desk.Sound limit
  accepting : desk.refusing = false
  current : ∀ p, desk.session.pending = some p → desk.session.isCurrent p = true
  able : ∀ job ∈ desk.jobs, job.Able

variable {limit : Nat} {desk : Desk} {event : Event} {query : Query}

/-! ## One event -/

/-- Every job is as it was or has been run. -/
theorem mem_jobs_runJobs {position : Option Int} {job : Job}
    (h : job ∈ (desk.runJobs position).2.jobs) :
    job ∈ desk.jobs ∨ ∃ before ∈ desk.jobs, job = before.run := by
  unfold runJobs at h
  split at h
  · obtain ⟨before, hmem, rfl⟩ := List.mem_map.mp h
    exact Or.inr ⟨before, hmem, rfl⟩
  · split at h
    · exact Or.inl h
    · next before n hj =>
      obtain ⟨place, -, hn⟩ := Option.bind_eq_some_iff.mp hj
      obtain ⟨found, hfound, he⟩ := Option.map_eq_some_iff.mp hn
      cases he
      rcases List.mem_or_eq_of_mem_set h with hmem | rfl
      · exact Or.inl hmem
      · exact Or.inr ⟨before, List.mem_of_getElem? hfound, rfl⟩

theorem refusing_runJobs (desk : Desk) (position : Option Int) :
    (desk.runJobs position).2.refusing = desk.refusing := by
  unfold runJobs
  split
  · rfl
  · split <;> rfl

/-- Waiting is nothing or running jobs. -/
theorem wait_eq (desk : Desk) : desk.wait.2 = desk ∨
    ∃ position, desk.wait.2 = (desk.runJobs position).2 := by
  unfold wait
  split
  · exact Or.inl rfl
  · next p _ =>
    refine Or.inr ⟨some p.ticket, ?_⟩
    simp only
    split <;> rfl

/-- Running jobs keeps the desk behind its requests. -/
theorem Behind.runJobs (h : desk.Behind limit) (position : Option Int) :
    (desk.runJobs position).2.Behind limit := by
  have hsession := (desk.runJobs_aside position).1
  refine ⟨step_sound (.runJobs position) trivial h.sound, ?_, fun p hp => ?_, fun job hjob => ?_⟩
  · rw [refusing_runJobs]; exact h.accepting
  · rw [hsession] at hp ⊢; exact h.current p hp
  · rcases mem_jobs_runJobs hjob with hmem | ⟨before, hmem, rfl⟩
    · exact h.able job hmem
    · exact (h.able before hmem).run

/-- A job that is handed over can be done. -/
theorem Behind.able_nextJob (h : desk.Behind limit) (hq : query.IsText) :
    (desk.nextJob query).Able := by
  obtain ⟨found, hfound, -⟩ := h.sound.settled.find hq
  refine ⟨⟨found, ?_⟩, nofun⟩
  unfold nextJob Job.outcome
  rw [hfound]

/-- No background search of a text fails. -/
theorem Behind.not_failed (h : desk.Behind limit) (ticket : Nat) (fault : Fault) :
    desk.status ticket ≠ .failed fault := by
  unfold status
  split
  · next job hjob => exact (h.able job (List.mem_of_getElem? hjob)).2 fault
  · nofun

/-- A poll shows the background search if it is done, and otherwise changes nothing. -/
theorem Behind.poll_cases (h : desk.Behind limit) :
    ((∀ p, desk.session.pending = some p → desk.status p.ticket = .running) ∧
      (desk.step .poll).2 = desk) ∨
    ∃ p found, desk.session.pending = some p ∧
      (desk.step .poll).2 = { desk with session := desk.session.applied p found } := by
  have hstep : (desk.step .poll).2 = { desk with session := (desk.session.poll desk.status).2 } :=
    rfl
  rw [hstep]
  rcases desk.session.poll_cases desk.status with
    ⟨hrunning, he⟩ | ⟨p, hp, -, ⟨hold, -⟩ | ⟨-, ⟨found, -, he⟩ | ⟨fault, hfailed, -⟩⟩⟩
  · exact Or.inl ⟨hrunning, by rw [he]⟩
  · rw [h.current p hp] at hold; cases hold
  · exact Or.inr ⟨p, found, hp, by rw [he]⟩
  · exact absurd hfailed (h.not_failed p.ticket fault)

/-- What an event of handing over leaves behind, and what is wanted after it. -/
structure Follows (limit : Nat) (desk : Desk) (event : Event) : Prop where
  behind : (desk.step event).2.Behind limit
  index : (desk.step event).2.session.index = desk.session.index
  wanted : (desk.step event).2.session.wanted = event.submitted?.getD desk.session.wanted

/-- Handing over a text follows the request. -/
theorem Behind.follows_submit (h : desk.Behind limit) (hq : query.IsText) :
    desk.Follows limit (.submit query) := by
  have hsound := step_sound (.submit query) hq h.sound
  rcases desk.submit_cases query with ⟨hholds, he⟩ | ⟨-, ⟨hrefusing, -⟩ | ⟨-, he⟩⟩
  · -- a query that is remembered is the one shown
    have hsame := (Memo.holds_iff_of_slot h.sound.settled.slot h.sound.settled.text hq).mp hholds
    refine ⟨⟨hsound, ?_, ?_, ?_⟩, ?_, ?_⟩
    all_goals rw [he]
    · exact h.accepting
    · nofun
    · exact h.able
    · rfl
    · exact hsame.symm
  · rw [h.accepting] at hrefusing; cases hrefusing
  · refine ⟨⟨hsound, ?_, ?_, ?_⟩, ?_, ?_⟩
    all_goals rw [he]
    · exact h.accepting
    · intro p hp
      cases hp
      exact desk.session.isCurrent_nextPending query desk.jobs.length
    · intro job hjob
      rcases List.mem_append.mp hjob with hjob | hjob
      · exact h.able job hjob
      · rw [List.mem_singleton.mp hjob]; exact h.able_nextJob hq
    · rfl
    · rfl

/-- Polling keeps the request. -/
theorem Behind.follows_poll (h : desk.Behind limit) : desk.Follows limit .poll := by
  have hsound := step_sound .poll trivial h.sound
  rcases h.poll_cases with ⟨-, he⟩ | ⟨p, found, hp, he⟩
  · exact ⟨he.symm ▸ h, by rw [he], by rw [he]; rfl⟩
  · refine ⟨⟨hsound, ?_, ?_, ?_⟩, ?_, ?_⟩
    all_goals rw [he]
    · exact h.accepting
    · nofun
    · exact h.able
    · rfl
    · exact (Session.wanted_of_some hp).symm

/-- **One event of handing over.** It keeps the desk behind, and what is wanted changes only if a
query is submitted. -/
theorem Behind.follows (h : desk.Behind limit) (hevent : event.IsHanding) :
    desk.Follows limit event := by
  have haside : ∀ position : Option Int, (desk.runJobs position).2.Behind limit ∧
      (desk.runJobs position).2.session = desk.session := fun position =>
    ⟨h.runJobs position, (desk.runJobs_aside position).1⟩
  cases event with
  | submit query => exact h.follows_submit hevent
  | poll => exact h.follows_poll
  | runJobs position =>
    obtain ⟨hbehind, hsession⟩ := haside position
    exact ⟨hbehind, congrArg Session.index hsession, congrArg Session.wanted hsession⟩
  | wait =>
    have hstep : (desk.step .wait).2 = desk.wait.2 := rfl
    rcases desk.wait_eq with he | ⟨position, he⟩
    · exact ⟨by rw [hstep, he]; exact h, by rw [hstep, he], by rw [hstep, he]; rfl⟩
    · obtain ⟨hbehind, hsession⟩ := haside position
      refine ⟨?_, ?_, ?_⟩
      all_goals rw [hstep, he]
      · exact hbehind
      · rw [hsession]
      · rw [hsession]; rfl
  | _ => exact hevent.elim

/-! ## Histories -/

/-- What is wanted in the end is the query submitted last. -/
theorem Behind.wanted_history : ∀ (events : List Event) {desk : Desk}, desk.Behind limit →
    (∀ event ∈ events, event.IsHanding) →
      (desk.history events).Behind limit ∧
      (desk.history events).session.index = desk.session.index ∧
      (desk.history events).session.wanted
        = (events.filterMap Event.submitted?).getLastD desk.session.wanted := by
  intro events
  induction events with
  | nil => exact fun h _ => ⟨h, rfl, rfl⟩
  | cons event rest ih =>
    intro desk h hall
    obtain ⟨hevent, hrest⟩ := List.forall_mem_cons.mp hall
    obtain ⟨hbehind, hindex, hwanted⟩ := h.follows hevent
    obtain ⟨hbehind', hindex', hwanted'⟩ := ih hbehind hrest
    refine ⟨hbehind', hindex'.trans hindex, ?_⟩
    rw [history_cons, hwanted', hwanted, List.filterMap_cons]
    cases event.submitted? with
    | none => rfl
    | some query => exact (List.getLastD_cons ..).symm

/-- Once all jobs are done, a poll shows what is wanted. -/
theorem Behind.query_poll (h : desk.Behind limit) (hdone : ∀ job ∈ desk.jobs, job.isDone = true) :
    (desk.step .poll).2.session.query = desk.session.wanted := by
  rcases h.poll_cases with ⟨hrunning, he⟩ | ⟨p, found, hp, he⟩
  · rw [he]
    refine (Session.wanted_of_none ?_).symm
    -- a background search would be that of a job, which is done
    rw [Option.eq_none_iff_forall_ne_some]
    intro p hp
    obtain ⟨job, hjob, -⟩ := h.sound.handed p hp
    have hstatus := hrunning p hp
    obtain ⟨found, hfound⟩ := (h.able job (List.mem_of_getElem? hjob)).found
      (hdone job (List.mem_of_getElem? hjob))
    unfold status at hstatus
    simp only [hjob, hfound] at hstatus
    cases hstatus
  · rw [he]
    exact (Session.wanted_of_some hp).symm

/-- Texts searched at once: the last one is shown. -/
theorem query_history_text : ∀ (queries : List Query) {desk : Desk},
    desk.session.Settled limit → desk.session.debounce = none →
    (∀ query ∈ queries, query.IsText) →
      (desk.history (queries.map .text)).session.Settled limit ∧
      (desk.history (queries.map .text)).session.index = desk.session.index ∧
      (desk.history (queries.map .text)).session.query = queries.getLastD desk.session.query := by
  intro queries
  induction queries with
  | nil => exact fun h _ _ => ⟨h, rfl, rfl⟩
  | cons query rest ih =>
    intro desk h hnone htexts
    obtain ⟨hq, hrest⟩ := List.forall_mem_cons.mp htexts
    have hstep : (desk.step (.text query)).2.session = (desk.session.run query).2 := by
      show (desk.session.textChanged query desk.clock).2 = _
      unfold Session.textChanged
      rw [hnone]
    obtain ⟨hquery, hindex, hdebounce⟩ := h.query_run hq
    rw [← hstep] at hquery hindex hdebounce
    obtain ⟨hsettled, hindex', hquery'⟩ :=
      ih (hstep ▸ h.run hq) (hdebounce.trans hnone) hrest
    rw [List.map_cons, history_cons]
    refine ⟨hsettled, hindex'.trans hindex, ?_⟩
    rw [hquery', hquery, List.getLastD_cons]

/-- The queries that are handed over are texts. -/
theorem isText_of_submitted {events : List Event} (hhanding : ∀ event ∈ events, event.IsHanding) :
    ∀ query ∈ events.filterMap Event.submitted?, query.IsText := by
  intro query hmem
  obtain ⟨event, hevent, hquery⟩ := List.mem_filterMap.mp hmem
  have h := hhanding event hevent
  cases event with
  | submit submitted => cases hquery; exact h
  | _ => cases hquery

/-- A session that is started without delay holds no queries. -/
theorem debounce_of_start {config : Config} {entries : List Entry} {session : Session}
    (hstart : Session.start config entries = .ok session) (hdelay : config.debounceMs = .int 0) :
    session.debounce = none := by
  obtain ⟨number, index, cursor, debounce, found, -, -, -, hd, -, rfl⟩ :=
    Session.start_searched hstart
  rw [hdelay] at hd
  cases hd
  rfl

/-- A new desk has nothing to catch up with. -/
theorem behind_create {config : Config} {entries : List Entry} {session : Session}
    (hstart : Session.start config entries = .ok session) (hlimit : config.limit = .int limit)
    (hweights : config.weights.Numeric) (handler : Handler) :
    (create session handler).Behind limit where
  sound := opened_sound (.intro handler hlimit hweights hstart)
  accepting := rfl
  current := fun p hp => by
    have hnone := Session.pending_start hstart
    have hpending : session.pending = some p := hp
    rw [hnone] at hpending
    cases hpending
  able := nofun

/-- **Searching in the background gives what searching at once gives.** Queries are handed to the
worker one after the other, with polls and finished jobs in between; when all jobs are done and
another poll has been made, the same is shown as if each query had been searched at once. -/
theorem background_view_eq {config : Config} {entries : List Entry} {session : Session}
    (hlimit : config.limit = .int limit) (hweights : config.weights.Numeric)
    (hdelay : config.debounceMs = .int 0) (hstart : Session.start config entries = .ok session)
    (handler : Handler) {events : List Event} (hhanding : ∀ event ∈ events, event.IsHanding)
    (hdone : ∀ job ∈ ((create session handler).history events).jobs, job.isDone = true) :
    let queries := events.filterMap Event.submitted?
    let polled := ((create session handler).history (events ++ [.poll])).session
    let searched := ((create session handler).history (queries.map .text)).session
    polled.query = searched.query ∧ polled.shown = searched.shown ∧
      ∃ results, polled.results = .ok results ∧ searched.results = .ok results := by
  intro queries polled searched
  have hstarted := behind_create hstart hlimit hweights handler
  obtain ⟨hsettled, hindex, hquery⟩ := query_history_text queries hstarted.sound.settled
    (debounce_of_start hstart hdelay) (isText_of_submitted hhanding)
  obtain ⟨hbehind, hindex', hwanted⟩ := hstarted.wanted_history events hhanding
  have hpolled : polled = (((create session handler).history events).step .poll).2.session := by
    show ((create session handler).history (events ++ [.poll])).session = _
    rw [history_append]
    rfl
  have hstart' : (create session handler).session.wanted = (create session handler).session.query :=
    Session.wanted_of_none (Session.pending_start hstart)
  have hq : polled.query = searched.query := by
    rw [hpolled, hbehind.query_poll hdone, hwanted, hstart']
    exact hquery.symm
  have hi : polled.index = searched.index := by
    rw [hpolled, hbehind.follows_poll.index, hindex']
    exact hindex.symm
  have hpoll : polled.Settled limit := by
    rw [hpolled]
    exact hbehind.follows_poll.behind.sound.settled
  exact ⟨hq, hsettled.same_view hpoll hi hq⟩

/-- Two queries whose jobs are done in the other order, one that is remembered by then, and two
more of which the first is done too late to be shown. -/
def trialHandover : List Event :=
  [.submit (Query.ofText "co"), .submit (Query.ofText "calc"), .runJobs (some 1), .poll,
    .runJobs (some 0), .submit (Query.ofText "calc"), .poll, .submit (Query.ofText "goo"),
    .submit (Query.ofText "co"), .runJobs (some 2), .poll, .runJobs none]

/-- Polled, the desk of the trial shows what searching at once shows. -/
theorem trial_background_view : ∃ session,
    Session.start (trialConfig.put .debounceMs (.int 0)) trialEntries = .ok session ∧
    (trialConfig.put .debounceMs (.int 0)).limit = .int 2 ∧
    (trialConfig.put .debounceMs (.int 0)).weights.Numeric ∧
    (trialConfig.put .debounceMs (.int 0)).debounceMs = .int 0 ∧
    (∀ event ∈ trialHandover, event.IsHanding) ∧
    (∀ job ∈ ((create session .absent).history trialHandover).jobs, job.isDone = true) ∧
    let queries := trialHandover.filterMap Event.submitted?
    let polled := ((create session .absent).history (trialHandover ++ [.poll])).session
    let searched := ((create session .absent).history (queries.map .text)).session
    polled.query = searched.query ∧ polled.shown = searched.shown ∧
      ∃ results, polled.results = .ok results ∧ searched.results = .ok results := by
  obtain ⟨desk, hdesk⟩ := exists_trial
  obtain ⟨delayed, hdelayed, -⟩ := start_of_trial hdesk
  obtain ⟨session, hstart⟩ := Session.exists_start_without_delay hdelayed
  have hlimit : (trialConfig.put .debounceMs (.int 0)).limit = .int (2 : Nat) := rfl
  have hweights : (trialConfig.put .debounceMs (.int 0)).weights.Numeric := ⟨Weights.standard, rfl⟩
  have hhanding : ∀ event ∈ trialHandover, event.IsHanding := by
    simp [trialHandover, Event.IsHanding]
  have hdone : ∀ job ∈ ((create session .absent).history trialHandover).jobs,
      job.isDone = true := by
    -- whatever jobs there are, the last event runs those that are not done
    have hjobs : ((create session .absent).history trialHandover).jobs
        = ((create session .absent).history trialHandover.dropLast).jobs.map Job.run := rfl
    intro job hjob
    rw [hjobs] at hjob
    obtain ⟨before, -, rfl⟩ := List.mem_map.mp hjob
    exact before.isDone_run
  exact ⟨session, hstart, hlimit, hweights, rfl, hhanding, hdone,
    background_view_eq hlimit hweights rfl hstart .absent hhanding hdone⟩

end Desk

end Launcher
