import Launcher.Proofs.Session.View

/-!
# Only the newest background search is shown

A background search is put aside in three ways: another one takes its place, a search at once or a
closing drops it, and a new generation makes it outdated while it is still there. `Awaits` says that
none of these has happened to the search with a ticket, and `awaits_step` says for every event how
it comes about and how it is lost. From that follows what a whole history does (`awaits_history`):

> a search is awaited exactly if its query was submitted and scheduled, and nothing in the events
> since then superseded it or used it up (`Undisturbed`).

A tick and a flush supersede it only if they take a held query, and another catalog only if it can
be built. A query that is submitted supersedes it even if the worker refuses that query or if it is
answered from memory.

> `poll_shows_newest`: a poll shows the result of a submitted query exactly if that query was
> scheduled, its job has found its result and it is undisturbed. Every other poll leaves what is
> shown as it was, and the only failure it reports is that of an undisturbed search.
-/

namespace Launcher

/-- Nothing that is shown, remembered or counted has changed. -/
structure Session.SameView (before after : Session) : Prop where
  query : after.query = before.query
  shown : after.shown = before.shown
  shownIndex : after.shownIndex = before.shownIndex
  cursor : after.cursor = before.cursor
  memo : after.memo = before.memo
  tally : after.tally = before.tally

namespace Desk

/-- The query would be handed to the worker as a new job. -/
def Schedules (desk : Desk) (query : Query) : Prop :=
  (desk.step (.submit query)).1 = .ok (.changed true)

/-- The background search of the session is the one with a ticket. -/
def Holds (desk : Desk) (ticket : Nat) : Prop :=
  ∃ p, desk.session.pending = some p ∧ p.ticket = ticket

/-- The event takes the query that is held. -/
def Takes (desk : Desk) (event : Event) : Prop :=
  desk.session.waiting?.isSome = true ∧ (desk.step event).2.session.waiting? = none

/-- The event is a newer request than any before it, or an end to them all. -/
def Supersedes (desk : Desk) : Event → Prop
  | .submit _ | .close | .closing _ => True
  | .text _ => desk.session.debounce = none
  | .tick now => desk.Takes (.tick now)
  | .flush => desk.Takes .flush
  | .rebuild entries => ∃ answer, (desk.step (.rebuild entries)).1 = .ok answer
  | _ => False

/-- The event is a poll that uses up the background search with a ticket. -/
def Consumes (desk : Desk) (ticket : Nat) : Event → Prop
  | .poll => desk.Holds ticket ∧ (desk.step .poll).2.session.pending = none
  | _ => False

/-- None of the events supersedes or uses up the background search with a ticket. -/
def Undisturbed (ticket : Nat) (desk : Desk) (events : List Event) : Prop :=
  ∀ before event after, events = before ++ event :: after →
    ¬(desk.history before).Supersedes event ∧ ¬(desk.history before).Consumes ticket event

/-- A poll would show the result of the background search with a ticket. -/
def Shows (desk : Desk) (ticket : Nat) : Prop :=
  desk.Holds ticket ∧ (desk.step .poll).1 = .ok (.changed true)

/-- The background search with a ticket is there and still wanted. -/
def Awaits (desk : Desk) (ticket : Nat) : Prop :=
  ∃ p, desk.session.pending = some p ∧ p.ticket = ticket ∧ desk.session.isCurrent p = true

variable {limit ticket : Nat} {desk : Desk} {event : Event}

/-! ## Undisturbed events -/

theorem undisturbed_nil : Undisturbed ticket desk [] := forall_split_nil

/-- Nothing disturbs a history when nothing disturbs its first event and the rest. -/
theorem undisturbed_cons {rest : List Event} :
    Undisturbed ticket desk (event :: rest) ↔
      (¬desk.Supersedes event ∧ ¬desk.Consumes ticket event) ∧
        Undisturbed ticket (desk.step event).2 rest :=
  forall_split_cons

/-! ## What one event does to the search that is awaited -/

/-- What must have been, for the search with a ticket to be awaited after an event. -/
def Leads (desk : Desk) (ticket : Nat) (event : Event) : Prop :=
  (desk.Awaits ticket ∧ ¬desk.Supersedes event ∧ ¬desk.Consumes ticket event) ∨
    ∃ query, event = .submit query ∧ desk.Schedules query ∧ ticket = desk.jobs.length

/-- Without a background search no job is awaited. -/
theorem not_awaits_of_none (h : desk.session.pending = none) : ¬desk.Awaits ticket := by
  rintro ⟨p, hp, -⟩
  rw [h] at hp
  cases hp

/-- Whether a job is awaited depends on the search, the generation and the catalog alone. -/
theorem awaits_congr {desk' : Desk} (hp : desk'.session.pending = desk.session.pending)
    (hg : desk'.session.generation = desk.session.generation)
    (he : desk'.session.edition = desk.session.edition) :
    desk'.Awaits ticket ↔ desk.Awaits ticket := by
  unfold Awaits Session.isCurrent
  rw [hp, hg, he]

/-- An event that neither supersedes nor uses up anything has to leave what is awaited alone. -/
theorem leads_of_kept (hkept : (desk.step event).2.Awaits ticket ↔ desk.Awaits ticket)
    (hs : ¬desk.Supersedes event) (hc : ¬desk.Consumes ticket event) :
    (desk.step event).2.Awaits ticket ↔ desk.Leads ticket event := by
  refine hkept.trans ⟨fun h => Or.inl ⟨h, hs, hc⟩, ?_⟩
  rintro (⟨h, -⟩ | ⟨query, rfl, -⟩)
  · exact h
  · exact absurd trivial hs

/-- An event after which nothing is awaited has to supersede or use up what was. -/
theorem leads_of_dropped (hnone : (desk.step event).2.session.pending = none)
    (hs : desk.Awaits ticket → desk.Supersedes event ∨ desk.Consumes ticket event)
    (hq : ∀ query, event = .submit query → ¬desk.Schedules query) :
    (desk.step event).2.Awaits ticket ↔ desk.Leads ticket event := by
  refine ⟨fun h => absurd h (not_awaits_of_none hnone), ?_⟩
  rintro (⟨h, hns, hnc⟩ | ⟨query, he, hsch, -⟩)
  · rcases hs h with h | h
    · exact absurd h hns
    · exact absurd h hnc
  · exact absurd hsch (hq query he)

/-- A search at once in a settled session leaves no background search. -/
theorem pending_run_of_settled {session : Session} {query : Query} (h : session.Settled limit)
    (hq : query.IsText) : (session.run query).2.pending = none := by
  rcases h.run_cases hq with ⟨-, he⟩ | ⟨-, found, -, he⟩
  · rw [he]; rfl
  · rw [he]; rfl

/-- Flushing leaves a session alone, or takes the held query and drops the background search. -/
theorem flush_takes {session : Session} (h : session.Settled limit) :
    (session.waiting? = none ∧ session.flush.2 = session) ∨
      session.waiting?.isSome = true ∧ session.flush.2.waiting? = none ∧
        session.flush.2.pending = none := by
  rw [Session.flush_eq]
  cases hw : session.waiting? with
  | none => exact Or.inl ⟨rfl, rfl⟩
  | some held =>
    refine Or.inr ⟨rfl, ?_, pending_run_of_settled h.released (h.held held hw)⟩
    exact (session.released.waiting?_run held.query).trans session.waiting?_released

/-- A tick changes nothing, or it searches what waits and drops the background search. -/
theorem tick_takes {session : Session} (h : session.Settled limit) (now : Value) :
    (session.tick now).2 = session ∨
      session.waiting?.isSome = true ∧ (session.tick now).2.waiting? = none ∧
        (session.tick now).2.pending = none := by
  rcases session.tick_cases now with ⟨fault, he⟩ | he | ⟨hw, he⟩
  · rw [he]; exact Or.inl rfl
  · rw [he]; exact Or.inl rfl
  · rw [he]
    rcases flush_takes h with ⟨hnone, -⟩ | htakes
    · rw [hnone] at hw; cases hw
    · exact Or.inr htakes

/-- An event that may take the held query leaves the session alone or supersedes. -/
theorem leads_of_takes (hs : desk.Supersedes event ↔ desk.Takes event)
    (hc : ¬desk.Consumes ticket event) (hq : ∀ query, event ≠ .submit query)
    (h : (desk.step event).2.session = desk.session ∨
      desk.session.waiting?.isSome = true ∧ (desk.step event).2.session.waiting? = none ∧
        (desk.step event).2.session.pending = none) :
    (desk.step event).2.Awaits ticket ↔ desk.Leads ticket event := by
  rcases h with hsame | ⟨hw, hnone, hp⟩
  · -- a query that was held is still held, so the event has taken nothing
    refine leads_of_kept (by unfold Awaits; rw [hsame]) (fun h => ?_) hc
    obtain ⟨hw, hnone⟩ := hs.mp h
    rw [hsame] at hnone
    rw [hnone] at hw
    cases hw
  · refine leads_of_dropped hp (fun _ => Or.inl (hs.mpr ⟨hw, hnone⟩)) fun query he => ?_
    exact absurd he (hq query)

/-- After a text is typed a job is awaited exactly when `Leads` says so. -/
theorem awaits_text {query : Query} (h : desk.Sound limit) (hq : query.IsText) :
    (desk.step (.text query)).2.Awaits ticket ↔ desk.Leads ticket (.text query) := by
  rcases desk.session.textChanged_cases query desk.clock with
    ⟨hd, he⟩ | ⟨debounce, hd, hheld⟩
  · refine leads_of_dropped ?_ (fun _ => Or.inl hd) nofun
    show (desk.session.textChanged query desk.clock).2.pending = none
    rw [he]
    exact pending_run_of_settled h.settled hq
  · have hns : ¬desk.Supersedes (.text query) := by
      intro hs
      rw [show desk.session.debounce = none from hs] at hd
      cases hd
    refine leads_of_kept ?_ hns id
    have hafter : (desk.step (.text query)).2.session
        = (desk.session.textChanged query desk.clock).2 := rfl
    rcases hheld with ⟨fault, he⟩ | ⟨holding, -, he⟩
    · rw [he] at hafter
      exact awaits_congr (by rw [hafter]) (by rw [hafter]) (by rw [hafter])
    · rw [he] at hafter
      exact awaits_congr (by rw [hafter]) (by rw [hafter]) (by rw [hafter])

/-- After a new catalog none is awaited any more. -/
theorem awaits_rebuild {entries : List Entry} (h : desk.Sound limit) :
    (desk.step (.rebuild entries)).2.Awaits ticket ↔ desk.Leads ticket (.rebuild entries) := by
  have hstep : desk.step (.rebuild entries)
      = ((desk.session.rebuild entries).1.map fun () => .nothing,
          { desk with session := (desk.session.rebuild entries).2 }) := rfl
  rcases h.settled.rebuild_cases entries with ⟨fault, -, he⟩ | ⟨index, found, -, -, he⟩
  · rw [he] at hstep
    refine leads_of_kept (by rw [hstep]) ?_ id
    rintro ⟨answer, ha⟩
    rw [hstep] at ha
    cases ha
  · rw [he] at hstep
    refine leads_of_dropped (by rw [hstep]; rfl) (fun _ => Or.inl ?_) nofun
    exact ⟨.nothing, by rw [hstep]; rfl⟩

/-- After a query is handed over its job is awaited, and no other one. -/
theorem awaits_submit {query : Query} (h : desk.Sound limit) :
    (desk.step (.submit query)).2.Awaits ticket ↔ desk.Leads ticket (.submit query) := by
  rcases desk.submit_cases query with ⟨-, he⟩ | ⟨-, ⟨-, he⟩ | ⟨-, he⟩⟩
  · refine leads_of_dropped (by rw [he]; rfl) (fun _ => Or.inl trivial) fun other heq hs => ?_
    cases heq
    unfold Schedules at hs
    rw [he] at hs
    cases hs
  · -- the search is still there, but of an older generation
    refine ⟨?_, ?_⟩
    · rw [he]
      rintro ⟨p, hp, -, hc⟩
      have hg := (h.settled.pending p hp).2.2.2
      unfold Session.isCurrent at hc
      rw [Bool.and_eq_true, beq_iff_eq] at hc
      have hgen : p.generation = desk.session.generation + 1 := hc.1
      omega
    · rintro (⟨-, hns, -⟩ | ⟨other, heq, hs, -⟩)
      · exact absurd trivial hns
      · cases heq
        unfold Schedules at hs
        rw [he] at hs
        cases hs
  · refine ⟨?_, ?_⟩
    · rw [he]
      rintro ⟨p, hp, ht, -⟩
      cases hp
      exact Or.inr ⟨query, rfl, by unfold Schedules; rw [he], ht.symm⟩
    · rintro (⟨-, hns, -⟩ | ⟨other, heq, -, ht⟩)
      · exact absurd trivial hns
      · rw [he]
        refine ⟨_, rfl, ht.symm, ?_⟩
        unfold Session.isCurrent
        rw [Bool.and_eq_true, beq_iff_eq, beq_iff_eq]
        exact ⟨rfl, rfl⟩

/-- Polling awaits what is not done. -/
theorem awaits_poll :
    (desk.step .poll).2.Awaits ticket ↔ desk.Leads ticket .poll := by
  have hstep : (desk.step .poll).2.session = (desk.session.poll desk.status).2 := rfl
  rcases desk.session.poll_cases desk.status with ⟨-, he⟩ | ⟨p, hp, -, hcases⟩
  · rw [he] at hstep
    refine leads_of_kept (by unfold Awaits; rw [hstep]) id ?_
    rintro ⟨⟨p, hp, -⟩, hnone⟩
    rw [hstep, hp] at hnone
    cases hnone
  · have hnone : (desk.step .poll).2.session.pending = none := by
      rcases hcases with ⟨-, he⟩ | ⟨-, ⟨found, -, he⟩ | ⟨fault, -, he⟩⟩
      · rw [hstep, he]; rfl
      · rw [hstep, he]; rfl
      · rw [hstep, he]; rfl
    refine leads_of_dropped hnone (fun ha => Or.inr ?_) nofun
    obtain ⟨p', hp', ht, -⟩ := ha
    exact ⟨⟨p', hp', ht⟩, hnone⟩

/-- **How a search comes to be awaited.** After an event a search is awaited if it was before and
the event neither supersedes it nor uses it up, or if the event is the one that schedules it. -/
theorem awaits_step (h : desk.Sound limit) (ht : event.IsTyped) :
    (desk.step event).2.Awaits ticket ↔ desk.Leads ticket event := by
  cases event with
  | text query => exact awaits_text h ht
  | tick now =>
    exact leads_of_takes Iff.rfl id nofun (tick_takes h.settled _)
  | flush =>
    refine leads_of_takes Iff.rfl id nofun ?_
    exact (flush_takes h.settled).imp And.right id
  | navigate given =>
    refine leads_of_kept ?_ id id
    rcases desk.navigate_cases given with ⟨fault, he⟩ | ⟨cursor, he⟩
    · rw [he]
    · rw [he]; exact awaits_congr rfl rfl rfl
  | rebuild entries => exact awaits_rebuild h
  | submit query => exact awaits_submit h
  | poll => exact awaits_poll
  | close => exact leads_of_dropped rfl (fun _ => Or.inl trivial) nofun
  | closing event => exact leads_of_dropped rfl (fun _ => Or.inl trivial) nofun
  | clock | execute | runJobs | failJobs | failJob | refuse | wait =>
    refine leads_of_kept ?_ id id
    unfold Awaits
    rw [(step_aside (by trivial) desk).1]

/-! ## What a history does to it -/

/-- The query of a history was scheduled under a ticket, and nothing has disturbed it since. -/
structure Standing (desk : Desk) (ticket : Nat) (before : List Event) (query : Query)
    (between : List Event) : Prop where
  scheduled : (desk.history before).Schedules query
  ticket_eq : ticket = (desk.history before).jobs.length
  undisturbed : Undisturbed ticket ((desk.history before).step (.submit query)).2 between

theorem standing_cons {before between : List Event} {query : Query} :
    desk.Standing ticket (event :: before) query between ↔
      (desk.step event).2.Standing ticket before query between :=
  ⟨fun ⟨hs, ht, hu⟩ => ⟨hs, ht, hu⟩, fun ⟨hs, ht, hu⟩ => ⟨hs, ht, hu⟩⟩

/-- A search is awaited after a history if it was before and nothing disturbed it, or if its query
was scheduled in the history and nothing has disturbed it since. -/
theorem awaits_history : ∀ (events : List Event) {desk : Desk}, desk.Sound limit →
    (∀ event ∈ events, event.IsTyped) →
      ((desk.history events).Awaits ticket ↔
        (desk.Awaits ticket ∧ Undisturbed ticket desk events) ∨
          ∃ before query between, events = before ++ .submit query :: between ∧
            desk.Standing ticket before query between) := by
  intro events
  induction events with
  | nil =>
    intro desk _ _
    rw [history_nil]
    refine ⟨fun h => Or.inl ⟨h, undisturbed_nil⟩, ?_⟩
    rintro (⟨h, -⟩ | ⟨before, query, between, he, -⟩)
    · exact h
    · exact absurd he (by simp)
  | cons event rest ih =>
    intro desk h hall
    have ht : event.IsTyped := hall event List.mem_cons_self
    rw [history_cons, ih (step_sound event ht h) fun e he => hall e (List.mem_cons_of_mem _ he),
      awaits_step h ht, undisturbed_cons]
    constructor
    · rintro (⟨⟨ha, hsc⟩ | ⟨query, rfl, hs, hlen⟩, hu⟩ | ⟨before, query, between, rfl, hst⟩)
      · exact Or.inl ⟨ha, hsc, hu⟩
      · exact Or.inr ⟨[], query, rest, rfl, hs, hlen, hu⟩
      · exact Or.inr ⟨event :: before, query, between, rfl, standing_cons.mpr hst⟩
    · rintro (⟨ha, hsc, hu⟩ | ⟨before, query, between, he, hst⟩)
      · exact Or.inl ⟨Or.inl ⟨ha, hsc⟩, hu⟩
      · cases before with
        | nil =>
          cases he
          exact Or.inl ⟨Or.inr ⟨query, rfl, hst.scheduled, hst.ticket_eq⟩, hst.undisturbed⟩
        | cons first before =>
          cases he
          exact Or.inr ⟨before, query, between, rfl, standing_cons.mp hst⟩

/-- A query that is scheduled puts its job under the next ticket. -/
theorem getElem?_of_schedules {query : Query} (h : desk.Schedules query) :
    (desk.step (.submit query)).2.jobs[desk.jobs.length]? = some (desk.nextJob query) := by
  unfold Schedules at h
  rcases desk.submit_cases query with ⟨-, he⟩ | ⟨-, ⟨-, he⟩ | ⟨-, he⟩⟩
  · rw [he] at h; cases h
  · rw [he] at h; cases h
  · rw [he]
    exact List.getElem?_concat_length

/-- The search of a query that was scheduled is awaited exactly if nothing has disturbed it since:
no later query gets its ticket. -/
theorem awaits_iff_undisturbed {query : Query} {between : List Event} (h : desk.Sound limit)
    (hq : query.IsText) (hall : ∀ event ∈ between, event.IsTyped) (hs : desk.Schedules query) :
    ((desk.step (.submit query)).2.history between).Awaits desk.jobs.length ↔
      Undisturbed desk.jobs.length (desk.step (.submit query)).2 between := by
  have hthere := getElem?_of_schedules hs
  have hawaits : (desk.step (.submit query)).2.Awaits desk.jobs.length :=
    (awaits_submit h).mpr (Or.inr ⟨query, rfl, hs, rfl⟩)
  rw [awaits_history between (step_sound (.submit query) hq h) hall]
  constructor
  · rintro (⟨-, hu⟩ | ⟨first, other, second, rfl, hst⟩)
    · exact hu
    · -- the ticket of the other query is the number of jobs, but there is a job under it
      obtain ⟨job, hjob, -⟩ := history_later first hthere
      obtain ⟨hlt, -⟩ := List.getElem?_eq_some_iff.mp hjob
      have hlen := hst.ticket_eq
      omega
  · exact fun hu => Or.inl ⟨hawaits, hu⟩

/-! ## What a poll shows -/

/-- Polling shows what the awaited job has found. -/
theorem poll_of_awaits {found : List (Match Float)} (ha : desk.Awaits ticket)
    (hs : desk.status ticket = .found found) :
    ∃ p, desk.session.pending = some p ∧ p.ticket = ticket ∧
      desk.session.poll desk.status = (.ok true, desk.session.applied p found) := by
  obtain ⟨p, hp, ht, hc⟩ := ha
  subst ht
  refine ⟨p, hp, rfl, ?_⟩
  rcases desk.session.poll_cases desk.status with ⟨hrun, -⟩ | ⟨p', hp', hne, hcases⟩
  · have hr := hrun p hp
    rw [hs] at hr
    cases hr
  · rw [hp] at hp'
    cases hp'
    rcases hcases with ⟨hout, -⟩ | ⟨-, ⟨found', hs', he⟩ | ⟨fault, hs', -⟩⟩
    · rw [hc] at hout; cases hout
    · rw [hs] at hs'
      cases hs'
      exact he
    · rw [hs] at hs'; cases hs'

/-- A poll shows what is awaited and found, and nothing else. -/
theorem shows_iff : desk.Shows ticket ↔
    desk.Awaits ticket ∧ ∃ found, desk.status ticket = .found found := by
  constructor
  · rintro ⟨⟨p, hp, ht⟩, ha⟩
    replace ha : (desk.session.poll desk.status).1.map Answer.changed = .ok (.changed true) := ha
    rcases desk.session.poll_cases desk.status with
      ⟨-, he⟩ | ⟨p', hp', -, ⟨-, he⟩ | ⟨hc, ⟨found, hs, he⟩ | ⟨fault, -, he⟩⟩⟩
    · rw [he] at ha; cases ha
    · rw [he] at ha; cases ha
    · rw [hp] at hp'
      cases hp'
      subst ht
      exact ⟨⟨p, hp, rfl, hc⟩, found, hs⟩
    · rw [he] at ha; cases ha
  · rintro ⟨ha, found, hs⟩
    obtain ⟨p, hp, ht, he⟩ := poll_of_awaits ha hs
    refine ⟨⟨p, hp, ht⟩, ?_⟩
    show (desk.session.poll desk.status).1.map Answer.changed = .ok (.changed true)
    rw [he]
    rfl

/-- A poll that shows nothing new leaves the view as it was; a failure that it reports is that of a
search that is awaited. -/
theorem poll_otherwise (h : ∀ ticket, ¬desk.Shows ticket) :
    desk.session.SameView (desk.step .poll).2.session ∧
      ∀ fault, (desk.step .poll).1 = .error fault →
        ∃ ticket, desk.Awaits ticket ∧ desk.status ticket = .failed fault := by
  have hstep : desk.step .poll = desk.afterChange (desk.session.poll desk.status) := rfl
  rcases desk.session.poll_cases desk.status with
    ⟨-, he⟩ | ⟨p, hp, -, ⟨-, he⟩ | ⟨hc, ⟨found, hs, he⟩ | ⟨fault, hs, he⟩⟩⟩
  · rw [hstep, he]
    exact ⟨⟨rfl, rfl, rfl, rfl, rfl, rfl⟩, nofun⟩
  · rw [hstep, he]
    exact ⟨⟨rfl, rfl, rfl, rfl, rfl, rfl⟩, nofun⟩
  · exact absurd (shows_iff.mpr ⟨⟨p, hp, rfl, hc⟩, found, hs⟩) (h p.ticket)
  · rw [hstep, he]
    refine ⟨⟨rfl, rfl, rfl, rfl, rfl, rfl⟩, fun other ho => ?_⟩
    cases ho
    exact ⟨p.ticket, ⟨p, hp, rfl, hc⟩, hs⟩

/-- What a poll shows of a query that was scheduled: the query, and what a search of the catalog
that it was submitted for finds. -/
theorem shown_of_shows {query : Query} {between : List Event} (h : desk.Sound limit)
    (hq : query.IsText) (hall : ∀ event ∈ between, event.IsTyped) (hs : desk.Schedules query)
    (hshows : ((desk.step (.submit query)).2.history between).Shows desk.jobs.length) :
    let polled := (((desk.step (.submit query)).2.history between).step .poll).2.session
    polled.query = query ∧
      desk.session.index.search query.value (.int limit) = .ok polled.shown := by
  intro polled
  have hnow : ((desk.step (.submit query)).2.history between).Sound limit :=
    history_induction (fun _ event => step_sound event) between hall
      (step_sound (.submit query) hq h)
  obtain ⟨ha, found, hfound⟩ := shows_iff.mp hshows
  obtain ⟨p, hp, ht, he⟩ := poll_of_awaits ha hfound
  -- the job under the ticket is the one that the query was handed over as
  obtain ⟨job, hjob, hlater⟩ := history_later between (getElem?_of_schedules hs)
  obtain ⟨job', hjob', hi, hq', -⟩ := hnow.handed p hp
  rw [ht, hjob] at hjob'
  cases hjob'
  have hpi : p.index = desk.session.index := hi.symm.trans hlater.index
  have hpq : p.query = query := hq'.symm.trans hlater.query
  have hpolled : polled
      = ((desk.step (.submit query)).2.history between).session.applied p found :=
    congrArg Prod.snd he
  rw [← ht] at hfound
  have hsearch := hnow.status_found hp hfound
  rw [hpi, hpq, hnow.settled.limit_eq] at hsearch
  rw [hpolled, Index.search_int h.settled.pos]
  exact ⟨hpq, hsearch⟩

/-- **Only the newest background search is shown, and it is never lost.** A poll after a history
shows the result of a query submitted in it exactly if that query was scheduled, its job has found
its result, and nothing since then was a newer request, a closing, or a poll that used it up; what
is shown then is that query with its matches. Any other poll changes nothing that is shown, and a
failure that a poll reports is that of a query that was scheduled and that nothing has disturbed. -/
theorem poll_shows_newest (hopen : desk.Opened limit) {events : List Event}
    (htyped : ∀ event ∈ events, event.IsTyped) :
    let now := desk.history events
    let polled := now.step .poll
    (∀ before query between, events = before ++ .submit query :: between →
      let call := desk.history before
      let shows := call.Schedules query ∧ now.Shows call.jobs.length
      (shows ↔ call.Schedules query ∧ (∃ found, now.status call.jobs.length = .found found) ∧
        Undisturbed call.jobs.length (call.step (.submit query)).2 between) ∧
      (shows → polled.2.session.query = query ∧
        call.session.index.search query.value (.int limit) = .ok polled.2.session.shown)) ∧
    ((∃ before query between, events = before ++ .submit query :: between ∧
        (desk.history before).Schedules query ∧
        now.Shows (desk.history before).jobs.length) ∨
      now.session.SameView polled.2.session) ∧
    ∀ fault, polled.1 = .error fault →
      ∃ before query between, events = before ++ .submit query :: between ∧
        let call := desk.history before
        call.Schedules query ∧ now.status call.jobs.length = .failed fault ∧
          Undisturbed call.jobs.length (call.step (.submit query)).2 between := by
  intro now polled
  -- whatever is awaited now was submitted in the history
  have hfrom : ∀ ticket, now.Awaits ticket → ∃ before query between,
      events = before ++ .submit query :: between ∧ desk.Standing ticket before query between := by
    intro ticket ha
    rcases (awaits_history events (opened_sound hopen) htyped).mp ha with ⟨hfirst, -⟩ | hsplit
    · exact absurd hfirst (not_awaits_of_none (pending_of_opened hopen))
    · exact hsplit
  refine ⟨?_, ?_, ?_⟩
  · -- a query submitted in the history, at the desk as it was then
    intro before query between he call shows
    subst he
    have hcall : call.Sound limit :=
      history_sound hopen fun e hm => htyped e (List.mem_append_left _ hm)
    have hq : query.IsText :=
      htyped (.submit query) (List.mem_append_right _ List.mem_cons_self)
    have hall : ∀ event ∈ between, event.IsTyped := fun e hm =>
      htyped e (List.mem_append_right _ (List.mem_cons_of_mem _ hm))
    have hnow : now = (call.step (.submit query)).2.history between := history_append ..
    refine ⟨?_, ?_⟩
    · show _ ∧ _ ↔ _
      rw [and_congr_right_iff]
      intro hs
      rw [shows_iff, hnow, awaits_iff_undisturbed hcall hq hall hs, and_comm]
    · rintro ⟨hs, hshows⟩
      rw [hnow] at hshows
      have := shown_of_shows hcall hq hall hs hshows
      show (now.step .poll).2.session.query = query ∧ _ = Except.ok (now.step .poll).2.session.shown
      rw [hnow]
      exact this
  · by_cases h : ∃ ticket, now.Shows ticket
    · obtain ⟨ticket, hshows⟩ := h
      obtain ⟨before, query, between, he, hst⟩ := hfrom ticket (shows_iff.mp hshows).1
      refine Or.inl ⟨before, query, between, he, hst.scheduled, ?_⟩
      rw [← hst.ticket_eq]
      exact hshows
    · exact Or.inr (poll_otherwise (not_exists.mp h)).1
  · intro fault hfault
    have hno : ∀ ticket, ¬now.Shows ticket := by
      rintro ticket ⟨-, ha⟩
      rw [show (now.step .poll).1 = .error fault from hfault] at ha
      cases ha
    obtain ⟨ticket, ha, hs⟩ := (poll_otherwise hno).2 fault hfault
    obtain ⟨before, query, between, he, hst⟩ := hfrom ticket ha
    obtain ⟨hsch, rfl, hu⟩ := hst
    exact ⟨before, query, between, he, hsch, hs, hu⟩

/-- Two queries are submitted one after the other, the job of the first fails, and the second is
found while a text is held. -/
def trialRequests : List Event :=
  [.submit (Query.ofText "goo"), .submit (Query.ofText "co"), .failJob 0 (.worker "cancelled"),
    .text (Query.ofText "calc"), .runJobs none]

theorem trial_shows_newest : ∃ desk, trial? = some desk ∧ desk.Opened 2 ∧
    (∀ event ∈ trialRequests, event.IsTyped) ∧
    let now := desk.history trialRequests
    let call := desk.history [.submit (Query.ofText "goo")]
    let query := Query.ofText "co"
    (call.Schedules query ∧ now.Shows call.jobs.length ↔
      call.Schedules query ∧ (∃ found, now.status call.jobs.length = .found found) ∧
        Undisturbed call.jobs.length (call.step (.submit query)).2
          [.failJob 0 (.worker "cancelled"), .text (Query.ofText "calc"), .runJobs none]) := by
  obtain ⟨desk, hdesk⟩ := exists_trial
  have htyped : ∀ event ∈ trialRequests, event.IsTyped := by
    simp [trialRequests, Event.IsTyped]
  have h := (poll_shows_newest (opened_trial hdesk) htyped).1
  exact ⟨desk, hdesk, opened_trial hdesk, htyped,
    (h [.submit (Query.ofText "goo")] (Query.ofText "co") _ rfl).1⟩

end Desk

end Launcher
