import Launcher.Proofs.Session.Course

/-!
# What is shown is never stale

`Desk.Sound` is the invariant of a desk: its session is settled, the jobs with the worker hold what
their own search finds, and the background search of the session is one of these jobs. Every event
keeps it (`step_sound`), so it holds after every history of an opened desk (`history_sound`).

> `history_view_fresh`: whatever has happened, the matches shown are those that a search of the
> catalog in use finds now for the query shown, the results are the entries of that catalog, and the
> memo holds exactly that query with those matches.
-/

namespace Launcher.Desk

/-- The session is settled, and what its background search will find is true of its catalog. -/
structure Sound (limit : Nat) (desk : Desk) : Prop where
  settled : desk.session.Settled limit
  honest : ∀ job ∈ desk.jobs, job.Honest
  handed : ∀ p, desk.session.pending = some p →
    ∃ job, desk.jobs[p.ticket]? = some job ∧ job.index = p.index ∧ job.query = p.query ∧
      job.limit = desk.session.limit

variable {limit : Nat} {desk : Desk}

/-- A desk that has just been opened has no background search. -/
theorem pending_of_opened (h : desk.Opened limit) : desk.session.pending = none := by
  cases h with
  | intro handler hlimit hweights hstart => exact Session.pending_start hstart

/-- A desk that has just been opened is sound. -/
theorem opened_sound (h : desk.Opened limit) : desk.Sound limit := by
  have hnone := pending_of_opened h
  cases h with
  | intro handler hlimit hweights hstart =>
    refine ⟨Session.settled_start hstart hlimit hweights, nofun, fun p hp => ?_⟩
    rw [hnone] at hp
    cases hp

/-! ## Every event keeps a desk sound -/

/-- An operation that schedules nothing keeps a desk sound if it keeps the session settled. -/
theorem Sound.withSession {session : Session} (h : desk.Sound limit)
    (hs : session.Settled limit)
    (hp : session.pending = none ∨ session.pending = desk.session.pending) :
    { desk with session }.Sound limit where
  settled := hs
  honest := h.honest
  handed := by
    intro p hpend
    change session.pending = some p at hpend
    rcases hp with hnone | hsame
    · rw [hnone] at hpend; cases hpend
    · rw [hsame] at hpend
      obtain ⟨job, hj, hi, hq, hl⟩ := h.handed p hpend
      refine ⟨job, hj, hi, hq, ?_⟩
      show job.limit = session.limit
      rw [hl, h.settled.limit_eq, hs.limit_eq]

/-- An event beside the session keeps the desk sound. -/
theorem Sound.aside {event : Event} (h : desk.Sound limit) (ha : event.IsAside) :
    (desk.step event).2.Sound limit := by
  obtain ⟨hs, hj⟩ := step_aside ha desk
  refine ⟨by rw [hs]; exact h.settled, hj.honest h.honest, fun p hp => ?_⟩
  rw [hs] at hp ⊢
  obtain ⟨job, hjob, hi, hq, hl⟩ := h.handed p hp
  obtain ⟨job', hjob', hlater⟩ := hj.later hjob
  exact ⟨job', hjob', hlater.index.trans hi, hlater.query.trans hq, hlater.limit.trans hl⟩

/-- Handing over a text keeps the desk sound. -/
theorem Sound.submit {query : Query} (h : desk.Sound limit) (hq : query.IsText) :
    (desk.step (.submit query)).2.Sound limit := by
  rcases desk.submit_cases query with ⟨-, he⟩ | ⟨-, ⟨-, he⟩ | ⟨-, he⟩⟩
  · rw [he]; exact h.withSession h.settled.recalled (Or.inl rfl)
  · rw [he]; exact h.withSession h.settled.refused (Or.inr rfl)
  · rw [he]
    refine ⟨h.settled.scheduled hq _, fun job hm => ?_, fun p hp => ?_⟩
    · rcases List.mem_append.mp hm with hm | hm
      · exact h.honest job hm
      · -- the new job has not found anything yet
        rw [List.mem_singleton.mp hm]
        exact nofun
    · cases hp
      exact ⟨desk.nextJob query, List.getElem?_concat_length, rfl, rfl, rfl⟩

/-- What the worker reports of the background search is what its index holds. -/
theorem Sound.status_found (h : desk.Sound limit) {p : Pending} {found : List (Match Float)}
    (hp : desk.session.pending = some p) (hs : desk.status p.ticket = .found found) :
    p.index.find p.query.value desk.session.limit = .ok found := by
  obtain ⟨job, hj, hi, hq, hl⟩ := h.handed p hp
  have hstatus : job.status = .found found := by
    unfold status at hs
    rw [hj] at hs
    exact hs
  have hfound := h.honest job (List.mem_of_getElem? hj) found hstatus
  rw [hi, hq, hl] at hfound
  exact hfound

/-- **One event keeps a desk sound.** -/
theorem step_sound : ∀ (event : Event) {desk : Desk}, event.IsTyped → desk.Sound limit →
    (desk.step event).2.Sound limit := by
  intro event
  induction event with
  | text query =>
    intro desk hq h
    exact h.withSession (h.settled.textChanged hq _) (Session.pending_textChanged ..)
  | tick now =>
    intro desk _ h
    exact h.withSession (h.settled.tick _) (Session.pending_tick ..)
  | flush =>
    intro desk _ h
    exact h.withSession h.settled.flush (Session.pending_flush _)
  | navigate given =>
    intro desk _ h
    rcases desk.navigate_cases given with ⟨fault, he⟩ | ⟨cursor, he⟩
    · rw [he]; exact h
    · rw [he]; exact h.withSession (h.settled.withCursor cursor) (Or.inr rfl)
  | rebuild entries =>
    intro desk _ h
    exact h.withSession (h.settled.rebuild entries) (Session.pending_rebuild ..)
  | submit query =>
    intro desk hq h
    exact h.submit hq
  | poll =>
    intro desk _ h
    exact h.withSession (h.settled.poll fun p found => h.status_found) (Session.pending_poll ..)
  | close =>
    intro desk _ h
    exact h.withSession h.settled.close (Or.inl rfl)
  | closing event ih =>
    intro desk ht h
    have h' := ih ht h
    exact h'.withSession h'.settled.close (Or.inl rfl)
  | clock | execute | runJobs | failJobs | failJob | refuse | wait =>
    intro desk _ h
    exact h.aside trivial

/-- Every history of an opened desk leads to a sound one. -/
theorem history_sound (hopen : desk.Opened limit) {events : List Event}
    (htyped : ∀ event ∈ events, event.IsTyped) : (desk.history events).Sound limit :=
  history_induction (fun _ event => step_sound event) events htyped (opened_sound hopen)

/-! ## The view -/

/-- **What is shown is never stale.** After every history of an opened desk the matches shown are
what a search of the catalog in use finds for the query shown, none of them is without an entry, and
the memo holds that query with these matches. -/
theorem history_view_fresh (hopen : desk.Opened limit) {events : List Event}
    (htyped : ∀ event ∈ events, event.IsTyped) :
    let session := (desk.history events).session
    session.index.search session.query.value (.int limit) = .ok session.shown ∧
    (∃ results, session.results = .ok results ∧
      session.index.results session.shown = .ok results ∧
      results.length = session.shown.length) ∧
    session.memo.slot = some (session.query, session.shown) := by
  intro session
  have h : session.Settled limit := (history_sound hopen htyped).settled
  have hsearch : session.index.search session.query.value (.int limit) = .ok session.shown := by
    rw [← h.found, h.limit_eq]
    exact Index.search_int h.pos session.query.value
  obtain ⟨results, hresults, hfound⟩ := h.exists_results
  exact ⟨hsearch, ⟨results, hresults, hfound, Index.length_results hfound⟩, h.slot⟩

/-- A text that is held, a search that is scheduled and done, a catalog with an id twice, and a
worker that refuses. -/
def trialView : List Event :=
  [.text (Query.ofText "goo"), .submit (Query.ofText "co"), .runJobs none,
    .rebuild (trialEntries ++ trialEntries), .poll, .refuse true, .submit (Query.ofText "calc"),
    .flush]

theorem trial_view_fresh : ∃ desk, trial? = some desk ∧ desk.Opened 2 ∧
    (∀ event ∈ trialView, event.IsTyped) ∧
    let session := (desk.history trialView).session
    session.index.search session.query.value (.int 2) = .ok session.shown ∧
    (∃ results, session.results = .ok results ∧
      session.index.results session.shown = .ok results ∧
      results.length = session.shown.length) ∧
    session.memo.slot = some (session.query, session.shown) := by
  obtain ⟨desk, hdesk⟩ := exists_trial
  have htyped : ∀ event ∈ trialView, event.IsTyped := by
    simp [trialView, Event.IsTyped]
  exact ⟨desk, hdesk, opened_trial hdesk, htyped,
    history_view_fresh (opened_trial hdesk) htyped⟩

end Launcher.Desk
