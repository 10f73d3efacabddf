import Launcher.Proofs.Catalog.FirstPerId
import Launcher.Proofs.Session.Newest

/-!
# An event that fails leaves the view alone

Five operations of a session can fail after they have begun to change it, or what surrounds it. For
all of them the order of the changes is such that nothing is changed that is shown, searched, held,
remembered or counted (`Session.Untouched`):

> `Desk.Fails` lists the ways in which an event fails, each with the desk that is left behind.
> `step_error_iff`: an event fails in these ways and in no other.
> `Fails.untouched`: in all of them the session is untouched.

What is left behind differs. A catalog with a repeated id, an unknown command and a clock without a
time change nothing at all, not even the background search. A refusal by the worker still starts a
generation, a failed background search is dropped, and an action has been handed over before its
handler fails.

An event that searches at once fails in a further way if a query is no text or a weight no number.
That does not happen to a sound desk, and to other events it cannot happen (`Event.NeverSearches`).
-/

namespace Launcher

/-- Nothing that is shown, searched, held, remembered or counted has changed. -/
structure Session.Untouched (before after : Session) : Prop extends before.SameView after where
  index : after.index = before.index
  edition : after.edition = before.edition
  limit : after.limit = before.limit
  debounce : after.debounce = before.debounce

/-- The event never searches the catalog at once. -/
def Event.NeverSearches : Event → Prop
  | .text _ | .tick _ | .flush | .rebuild _ => False
  | .closing event => event.NeverSearches
  | _ => True

/-- A catalog cannot be made an index exactly if an id is repeated in it. -/
theorem Index.build_eq_error_iff (weights : Weights Value) {entries : List Entry} {fault : Fault} :
    Index.build weights entries = .error fault ↔
      ∃ id, firstRepeated? [] (entries.map Entry.id) = some id ∧
        fault = .catalog (.duplicateId id) := by
  unfold build
  split
  · next id hid =>
    rw [hid]
    refine ⟨fun h => ⟨id, rfl, ?_⟩, ?_⟩
    · cases h; rfl
    · rintro ⟨other, ho, rfl⟩
      cases ho
      rfl
  · next hid =>
    refine ⟨nofun, ?_⟩
    rintro ⟨other, ho, -⟩
    rw [hid] at ho
    cases ho

/-- There is a first repeated id exactly when the ids are not distinct. -/
theorem exists_firstRepeated?_iff {ids : List Text} :
    (∃ id, firstRepeated? [] ids = some id) ↔ ¬ids.Nodup := by
  cases h : firstRepeated? [] ids with
  | none => exact ⟨nofun, fun hdup => absurd (nodup_of_firstRepeated?_eq_none h).1 hdup⟩
  | some id =>
    refine ⟨fun _ hnodup => ?_, fun _ => ⟨id, rfl⟩⟩
    rw [firstRepeated?_eq_none_of_nodup hnodup fun _ _ => List.not_mem_nil] at h
    cases h

namespace Session

variable {limit : Nat} {session after : Session} {query : Query} {fault : Fault}

theorem untouched_refl (session : Session) : session.Untouched session :=
  ⟨⟨rfl, rfl, rfl, rfl, rfl, rfl⟩, rfl, rfl, rfl, rfl⟩

theorem untouched_close (session : Session) : session.Untouched session.close :=
  ⟨⟨rfl, rfl, rfl, rfl, rfl, rfl⟩, rfl, rfl, rfl, rfl⟩

theorem untouched_refused (session : Session) : session.Untouched session.refused :=
  ⟨⟨rfl, rfl, rfl, rfl, rfl, rfl⟩, rfl, rfl, rfl, rfl⟩

/-- Dropping the background search afterwards touches nothing either. -/
theorem Untouched.close (h : session.Untouched after) : session.Untouched after.close :=
  ⟨⟨h.query, h.shown, h.shownIndex, h.cursor, h.memo, h.tally⟩, h.index, h.edition, h.limit,
    h.debounce⟩

/-! ## Where the operations of a session fail -/

/-- Typing fails only where it cannot be told when the text is due. -/
theorem Settled.textChanged_eq_error_iff (h : session.Settled limit) (hq : query.IsText)
    {now : Value} :
    session.textChanged query now = (.error fault, after) ↔
      (∃ debounce, session.debounce = some debounce ∧ debounce.hold query now = .error fault) ∧
        after = session := by
  unfold Session.textChanged
  cases hd : session.debounce with
  | none =>
    obtain ⟨flag, hok⟩ := h.run_ok hq
    refine ⟨fun hrun => ?_, fun ⟨⟨_, hnone, _⟩, _⟩ => nomatch hnone⟩
    rw [show session.run query = (.error fault, after) from hrun] at hok
    cases hok
  | some debounce =>
    cases hh : debounce.hold query now with
    | error reason =>
      simp only [hh]
      constructor
      · intro he
        cases he
        exact ⟨⟨debounce, rfl, hh⟩, rfl⟩
      · rintro ⟨⟨_, hsome, hheld⟩, rfl⟩
        cases hsome
        rw [hh] at hheld
        cases hheld
        rfl
    | ok holding =>
      simp only [hh]
      refine ⟨nofun, ?_⟩
      rintro ⟨⟨_, hsome, hheld⟩, -⟩
      cases hsome
      rw [hh] at hheld
      cases hheld

/-- A tick fails only where it cannot be told whether the text that is held is due. -/
theorem Settled.tick_eq_error_iff (h : session.Settled limit) {now : Value} :
    session.tick now = (.error fault, after) ↔
      (∃ debounce, session.debounce = some debounce ∧ debounce.isDue now = .error fault) ∧
        after = session := by
  unfold Session.tick
  cases hd : session.debounce with
  | none => exact ⟨nofun, fun ⟨⟨_, hnone, _⟩, _⟩ => nomatch hnone⟩
  | some debounce =>
    cases hdue : debounce.isDue now with
    | error reason =>
      simp only [hdue]
      constructor
      · intro he
        cases he
        exact ⟨⟨debounce, rfl, hdue⟩, rfl⟩
      · rintro ⟨⟨_, hsome, hwhen⟩, rfl⟩
        cases hsome
        rw [hdue] at hwhen
        cases hwhen
        rfl
    | ok due =>
      -- what is due is flushed, and a flush finds its text
      obtain ⟨flag, hok⟩ := h.flush_ok
      simp only [hdue]
      refine ⟨fun he => ?_, ?_⟩
      · split at he
        · rw [he] at hok; cases hok
        · cases he
      · rintro ⟨⟨_, hsome, hwhen⟩, -⟩
        cases hsome
        rw [hdue] at hwhen
        cases hwhen

/-- Replacing the catalog fails only for a repeated id. -/
theorem Settled.rebuild_eq_error_iff (h : session.Settled limit) {entries : List Entry} :
    session.rebuild entries = (.error fault, after) ↔
      (∃ id, firstRepeated? [] (entries.map Entry.id) = some id ∧
        fault = .catalog (.duplicateId id)) ∧ after = session := by
  rw [← Index.build_eq_error_iff session.index.weights]
  rcases h.rebuild_cases entries with ⟨reason, hb, he⟩ | ⟨index, found, hb, -, he⟩
  · rw [he, hb, Prod.mk.injEq, Except.error.injEq, Except.error.injEq]
    exact and_congr_right fun _ => eq_comm
  · rw [he, hb]
    exact ⟨nofun, nofun⟩

/-- A background search that the worker refuses starts a generation and nothing else. -/
theorem submit_refused (hm : session.memo.holds query = false) (fault : Fault) :
    session.submit query (.error fault) = (.error fault, session.refused) := by
  rcases session.submit_cases query (.error fault) with ⟨hh, -⟩ | ⟨-, ⟨other, ho, he⟩ | ⟨_, ho, -⟩⟩
  · rw [hm] at hh; cases hh
  · cases ho
    exact he
  · cases ho

end Session

namespace Desk

/-- The ways in which an event fails, and the desk after it. -/
inductive Fails (desk : Desk) : Event → Fault → Desk → Prop where
  /-- A text is to be held, and the clock shows no time. -/
  | text {query : Query} {debounce : Debounce} {fault : Fault}
      (hdebounce : desk.session.debounce = some debounce)
      (hhold : debounce.hold query desk.clock = .error fault) : Fails desk (.text query) fault desk
  /-- A text is held, and what has passed is no time. -/
  | tick {now : Value} {debounce : Debounce} {fault : Fault}
      (hdebounce : desk.session.debounce = some debounce)
      (hdue : debounce.isDue (if now.isNull then desk.clock else now) = .error fault) :
      Fails desk (.tick now) fault desk
  /-- There is no such command, or no such row to move to. -/
  | navigate {given : Value} {fault : Fault}
      (hmove : desk.session.navigate given = .error fault) : Fails desk (.navigate given) fault desk
  /-- The cursor is between two rows. -/
  | unselected {fault : Fault} (hselected : desk.session.selected? = .error fault) :
      Fails desk .execute fault desk
  /-- The handler has been handed the action and fails. -/
  | handler {entry : Entry} {fault : Fault}
      (hselected : desk.session.selected? = .ok (some entry))
      (hfailing : desk.handler = .failing fault) :
      Fails desk .execute fault { desk with launched := desk.launched ++ [entry.action] }
  /-- An id is repeated in the new catalog. -/
  | rebuild {entries : List Entry} {id : Text}
      (hrepeated : firstRepeated? [] (entries.map Entry.id) = some id) :
      Fails desk (.rebuild entries) (.catalog (.duplicateId id)) desk
  /-- The worker takes no more jobs. -/
  | submit {query : Query} (hmemo : desk.session.memo.holds query = false)
      (hrefusing : desk.refusing = true) :
      Fails desk (.submit query) (.worker "executor is down")
        { desk with session := desk.session.refused }
  /-- The background search is still wanted, and it has failed. -/
  | poll {p : Pending} {fault : Fault} (hpending : desk.session.pending = some p)
      (hcurrent : desk.session.isCurrent p = true)
      (hfailed : desk.status p.ticket = .failed fault) :
      Fails desk .poll fault { desk with session := desk.session.close }
  /-- There is no job at that position. -/
  | runJobs {position : Int}
      (hplace : ∀ place, placeOf? desk.jobs.length position = some place →
        desk.jobs.length ≤ place) :
      Fails desk (.runJobs (some position)) .outOfRange desk
  /-- The background search that is waited for fails. -/
  | wait {p : Pending} {fault : Fault} (hpending : desk.session.pending = some p)
      (hfailed : (desk.runJobs (some p.ticket)).2.status p.ticket = .failed fault) :
      Fails desk .wait fault (desk.runJobs (some p.ticket)).2
  /-- The event before the closing fails. -/
  | closing {event : Event} {fault : Fault} {after : Desk} (hinner : Fails desk event fault after) :
      Fails desk (.closing event) fault { after with session := after.session.close }

variable {limit : Nat} {desk after : Desk} {event : Event} {fault : Fault}

/-- **What fails leaves the session untouched.** -/
theorem Fails.untouched (h : desk.Fails event fault after) :
    desk.session.Untouched after.session := by
  induction h with
  | text | tick | navigate | unselected | handler | rebuild | runJobs =>
    exact desk.session.untouched_refl
  | submit => exact desk.session.untouched_refused
  | poll => exact desk.session.untouched_close
  | @wait p fault hpending hfailed =>
    rw [(desk.runJobs_aside (some p.ticket)).1]
    exact desk.session.untouched_refl
  | closing hinner ih => exact ih.close

/-! ## One event -/

/-- An operation of the session that fails is an event that fails. -/
theorem afterChange_eq_error_iff {outcome : Except Fault Bool × Session} :
    desk.afterChange outcome = (.error fault, after) ↔
      ∃ session, outcome = (.error fault, session) ∧ after = { desk with session } := by
  obtain ⟨result, session⟩ := outcome
  unfold afterChange
  cases result with
  | ok flag =>
    refine ⟨fun h => ?_, ?_⟩
    · injection h with hresult
      cases hresult
    · rintro ⟨other, h, -⟩
      injection h with hresult
      cases hresult
  | error reason =>
    refine ⟨fun h => ?_, ?_⟩
    · cases h
      exact ⟨session, rfl, rfl⟩
    · rintro ⟨other, h, rfl⟩
      cases h
      rfl

/-- There is no job to be run at a position that no place of the list means. -/
theorem runJobs_eq_error_iff {position : Int} :
    desk.runJobs (some position) = (.error fault, after) ↔
      (∀ place, placeOf? desk.jobs.length position = some place → desk.jobs.length ≤ place) ∧
        fault = .outOfRange ∧ after = desk := by
  unfold runJobs
  cases hp : placeOf? desk.jobs.length position with
  | none =>
    simp only [hp, Option.bind_none]
    refine ⟨fun h => ?_, ?_⟩
    · cases h
      exact ⟨nofun, rfl, rfl⟩
    · rintro ⟨-, rfl, rfl⟩
      rfl
  | some place =>
    by_cases hlt : place < desk.jobs.length
    · simp only [hp, Option.bind_some, List.getElem?_eq_getElem hlt, Option.map_some]
      refine ⟨nofun, fun ⟨h, _⟩ => ?_⟩
      have hle := h place rfl
      omega
    · have hle : desk.jobs.length ≤ place := by omega
      simp only [hp, Option.bind_some, List.getElem?_eq_none hle, Option.map_none]
      refine ⟨fun h => ?_, ?_⟩
      · cases h
        refine ⟨fun other ho => ?_, rfl, rfl⟩
        cases ho
        exact hle
      · rintro ⟨-, rfl, rfl⟩
        rfl

/-- The list of failures is right: an event that is said to fail does. -/
theorem Fails.step_eq (h : desk.Fails event fault after) :
    desk.step event = (.error fault, after) := by
  induction h with
  | @text query debounce fault hd hh =>
    refine afterChange_eq_error_iff.mpr ⟨desk.session, ?_, rfl⟩
    unfold Session.textChanged
    simp only [hd, hh]
  | @tick now debounce fault hd hdue =>
    refine afterChange_eq_error_iff.mpr ⟨desk.session, ?_, rfl⟩
    unfold Session.tick
    simp only [hd, hdue]
  | navigate hmove => unfold step; simp only [hmove]
  | unselected hselected => show desk.execute = _; unfold execute; simp only [hselected]
  | handler hselected hfailing =>
    show desk.execute = _
    unfold execute
    simp only [hselected, hfailing]
  | @rebuild entries id hrepeated =>
    have hbuild : Index.build desk.session.index.weights entries
        = .error (.catalog (.duplicateId id)) :=
      (Index.build_eq_error_iff _).mpr ⟨id, hrepeated, rfl⟩
    unfold step Session.rebuild
    simp only [hbuild]
    rfl
  | @submit query hmemo hrefusing =>
    rcases desk.submit_cases query with ⟨hh, -⟩ | ⟨-, ⟨-, he⟩ | ⟨hr, -⟩⟩
    · rw [hmemo] at hh; cases hh
    · exact he
    · rw [hrefusing] at hr; cases hr
  | @poll p fault hpending hcurrent hfailed =>
    refine afterChange_eq_error_iff.mpr ⟨desk.session.close, ?_, rfl⟩
    unfold Session.poll
    simp only [hpending, hfailed, hcurrent, if_true]
    rfl
  | runJobs hplace => exact runJobs_eq_error_iff.mpr ⟨hplace, rfl, rfl⟩
  | wait hpending hfailed =>
    show desk.wait = _
    unfold Desk.wait
    simp only [hpending, hfailed]
  | closing hinner ih => unfold step; rw [ih]

/-- How executing fails. -/
theorem fails_of_execute (h : desk.execute = (.error fault, after)) :
    desk.Fails .execute fault after := by
  unfold execute at h
  cases hs : desk.session.selected? with
  | error reason =>
    simp only [hs] at h
    cases h
    exact .unselected hs
  | ok found =>
    cases found with
    | none => simp only [hs] at h; cases h
    | some entry =>
      simp only [hs] at h
      split at h
      · cases h
      · cases h
      · next reason hh =>
        cases h
        exact .handler hs hh

/-- How polling fails. -/
theorem fails_of_poll (h : desk.step .poll = (.error fault, after)) :
    desk.Fails .poll fault after := by
  obtain ⟨session, hpoll, rfl⟩ := afterChange_eq_error_iff.mp h
  rcases desk.session.poll_cases desk.status with
    ⟨-, he⟩ | ⟨p, hp, -, ⟨-, he⟩ | ⟨hc, ⟨found, -, he⟩ | ⟨reason, hs, he⟩⟩⟩
  · rw [he] at hpoll; cases hpoll
  · rw [he] at hpoll; cases hpoll
  · rw [he] at hpoll; cases hpoll
  · rw [he] at hpoll
    cases hpoll
    exact .poll hp hc hs

/-- How handing over a query fails. -/
theorem fails_of_submit {query : Query} (h : desk.step (.submit query) = (.error fault, after)) :
    desk.Fails (.submit query) fault after := by
  rcases desk.submit_cases query with ⟨-, he⟩ | ⟨hm, ⟨hr, he⟩ | ⟨-, he⟩⟩
  · rw [he] at h; cases h
  · rw [he] at h
    cases h
    exact .submit hm hr
  · rw [he] at h; cases h

/-- How waiting fails. -/
theorem fails_of_wait (h : desk.wait = (.error fault, after)) : desk.Fails .wait fault after := by
  unfold Desk.wait at h
  cases hp : desk.session.pending with
  | none => simp only [hp] at h; cases h
  | some p =>
    simp only [hp] at h
    split at h
    · next reason hs =>
      cases h
      exact .wait hp hs
    · cases h

/-- How a move fails. -/
theorem fails_of_navigate {given : Value}
    (h : desk.step (.navigate given) = (.error fault, after)) :
    desk.Fails (.navigate given) fault after := by
  unfold step at h
  cases hn : desk.session.navigate given with
  | ok session => simp only [hn] at h; cases h
  | error reason =>
    simp only [hn] at h
    cases h
    exact .navigate hn

/-- The list of failures is complete for events that never search, on any desk, and for all events
that ask for texts, on a sound one. -/
theorem fails_of_step : ∀ (event : Event) {after : Desk},
    event.NeverSearches ∨ desk.Sound limit ∧ event.IsTyped →
      desk.step event = (.error fault, after) → desk.Fails event fault after := by
  intro event
  induction event with
  | clock | close | failJobs | failJob | refuse => intro after _ h; cases h
  | text query =>
    rintro after (hn | ⟨hs, hq⟩) h
    · exact hn.elim
    · obtain ⟨session, htext, rfl⟩ := afterChange_eq_error_iff.mp h
      obtain ⟨⟨debounce, hd, hh⟩, rfl⟩ := (hs.settled.textChanged_eq_error_iff hq).mp htext
      exact .text hd hh
  | tick now =>
    rintro after (hn | ⟨hs, -⟩) h
    · exact hn.elim
    · obtain ⟨session, htick, rfl⟩ := afterChange_eq_error_iff.mp h
      obtain ⟨⟨debounce, hd, hdue⟩, rfl⟩ := hs.settled.tick_eq_error_iff.mp htick
      exact .tick hd hdue
  | flush =>
    rintro after (hn | ⟨hs, -⟩) h
    · exact hn.elim
    · obtain ⟨session, hflush, -⟩ := afterChange_eq_error_iff.mp h
      obtain ⟨flag, hok⟩ := hs.settled.flush_ok
      rw [hflush] at hok
      cases hok
  | rebuild entries =>
    rintro after (hn | ⟨hs, -⟩) h
    · exact hn.elim
    · unfold step at h
      cases hr : desk.session.rebuild entries with
      | mk result session =>
        simp only [hr] at h
        cases result with
        | ok _ => cases h
        | error reason =>
          cases h
          obtain ⟨⟨id, hid, rfl⟩, rfl⟩ := hs.settled.rebuild_eq_error_iff.mp hr
          exact .rebuild hid
  | navigate given => exact fun _ => fails_of_navigate
  | execute => exact fun _ => fails_of_execute
  | submit query => exact fun _ => fails_of_submit
  | poll => exact fun _ => fails_of_poll
  | wait => exact fun _ => fails_of_wait
  | runJobs position =>
    intro after _ h
    cases position with
    | none => cases h
    | some position =>
      obtain ⟨hplace, rfl, rfl⟩ := runJobs_eq_error_iff.mp h
      exact .runJobs hplace
  | closing event ih =>
    intro after hwhen h
    unfold step at h
    cases hinner : desk.step event with
    | mk result inner =>
      rw [hinner] at h
      cases h
      exact .closing (ih hwhen hinner)

/-- An event fails exactly in the ways listed, where no search at once can fail. -/
theorem step_error_iff (hwhen : event.NeverSearches ∨ desk.Sound limit ∧ event.IsTyped) :
    desk.step event = (.error fault, after) ↔ desk.Fails event fault after :=
  ⟨fails_of_step event hwhen, Fails.step_eq⟩

/-- Replacing the catalog fails for its ids and leaves everything as it is exactly if an id is
repeated. -/
theorem rebuild_fails_iff {entries : List Entry} :
    (∃ id, desk.step (.rebuild entries) = (.error (.catalog (.duplicateId id)), desk)) ↔
      ¬(entries.map Entry.id).Nodup := by
  rw [← exists_firstRepeated?_iff]
  constructor
  · rintro ⟨id, h⟩
    rcases desk.session.rebuild_cases entries with ⟨fault, hb, -⟩ | ⟨index, -, he⟩
    · obtain ⟨other, ho, -⟩ := (Index.build_eq_error_iff _).mp hb
      exact ⟨other, ho⟩
    · -- a catalog that can be built counts as another one, whatever the search in it does
      have hafter : (desk.session.rebuild entries).2 = desk.session :=
        congrArg (fun outcome => outcome.2.session) h
      have hedition : (desk.session.rebuild entries).2.edition = desk.session.edition + 1 := by
        rw [he, Session.run_eq]
        split
        · rfl
        · split <;> rfl
      rw [hafter] at hedition
      omega
  · rintro ⟨id, hid⟩
    exact ⟨id, (Fails.rebuild hid).step_eq⟩

/-! ## Every history -/

/-- **An event that fails leaves the view alone.** After every history of a session that was started
with a positive whole limit, a request that does not search fails only in the ways listed, and so
does every other one that asks for texts with numeric weights. Whatever fails leaves what is shown,
searched, held, remembered and counted as it was; a catalog with a repeated id leaves everything as
it was, and a worker that refuses, for whatever reason, only starts a generation. -/
theorem failure_keeps_view {config : Config} {entries : List Entry} {session : Session}
    (hstart : Session.start config entries = .ok session) (hlimit : config.limit = .int limit)
    (handler : Handler) (events : List Event) :
    let now := (create session handler).history events
    (∀ event, (event.NeverSearches ∨ config.weights.Numeric ∧ ∀ e ∈ event :: events, e.IsTyped) →
      ∀ fault after, now.step event = (.error fault, after) ↔ now.Fails event fault after) ∧
    (∀ event fault after, now.Fails event fault after → now.session.Untouched after.session) ∧
    (∀ catalog : List Entry,
      (∃ id, now.step (.rebuild catalog) = (.error (.catalog (.duplicateId id)), now)) ↔
        ¬(catalog.map Entry.id).Nodup) ∧
    ∀ query fault, now.session.memo.holds query = false →
      now.session.submit query (.error fault) = (.error fault, now.session.refused) ∧
        now.session.Untouched now.session.refused := by
  intro now
  refine ⟨?_, ?_, ?_, ?_⟩
  · intro event hwhen fault after
    have hsound : event.NeverSearches ∨ now.Sound limit ∧ event.IsTyped := by
      rcases hwhen with hnever | ⟨hweights, htyped⟩
      · exact Or.inl hnever
      · obtain ⟨htyped, hall⟩ := List.forall_mem_cons.mp htyped
        exact Or.inr ⟨history_sound (.intro handler hlimit hweights hstart) hall, htyped⟩
    exact step_error_iff hsound
  · intro event fault after hfails
    exact hfails.untouched
  · intro catalog
    exact rebuild_fails_iff
  · intro query fault hmemo
    exact ⟨Session.submit_refused hmemo fault, now.session.untouched_refused⟩

/-- A background search fails while a text is held, and then the worker refuses. -/
def trialDowntime : List Event :=
  [.submit (Query.ofText "goo"), .failJob 0 (.worker "cancelled"), .text (Query.ofText "calc"),
    .refuse true]

/-- What fails then. -/
def trialFailures : List Event :=
  [.poll, .submit (Query.ofText "co"), .navigate (.text "sideways"),
    .rebuild (trialEntries ++ trialEntries)]

/-- Each of the failures of the trial fails. -/
theorem trial_fails {session : Session}
    (hstart : Session.start trialConfig trialEntries = .ok session)
    {event : Event} (hmem : event ∈ trialFailures) :
    (((create session .absent).history trialDowntime).step event).1.isOk = false := by
  have hall : (Session.start trialConfig trialEntries).toOption.map (fun session =>
      trialFailures.all fun event =>
        !(((create session .absent).history trialDowntime).step event).1.isOk) = some true := by
    decide
  rw [hstart] at hall
  have hevent := List.all_eq_true.mp (Option.some.inj hall) event hmem
  rwa [Bool.not_eq_true'] at hevent

theorem trial_failure_keeps_view : ∃ session,
    Session.start trialConfig trialEntries = .ok session ∧ trialConfig.limit = .int 2 ∧
    let now := (create session .absent).history trialDowntime
    ∀ event ∈ trialFailures, ∃ fault after, now.step event = (.error fault, after) ∧
      now.session.Untouched after.session := by
  obtain ⟨desk, hdesk⟩ := exists_trial
  obtain ⟨session, hstart, -⟩ := start_of_trial hdesk
  refine ⟨session, hstart, rfl, ?_⟩
  intro now event hmem
  have htyped : ∀ e ∈ event :: trialDowntime, e.IsTyped := by
    have hfailures : ∀ e ∈ trialFailures, e.IsTyped := by simp [trialFailures, Event.IsTyped]
    refine List.forall_mem_cons.mpr ⟨hfailures event hmem, ?_⟩
    simp [trialDowntime, Event.IsTyped]
  obtain ⟨hlisted, huntouched, -⟩ := failure_keeps_view hstart rfl .absent trialDowntime
  have hfail := trial_fails hstart hmem
  cases hstep : now.step event with
  | mk result after =>
    rw [show ((create session .absent).history trialDowntime).step event = (result, after)
      from hstep] at hfail
    cases result with
    | ok answer => cases hfail
    | error fault =>
      have hfails := (hlisted event (Or.inr ⟨⟨Weights.standard, rfl⟩, htyped⟩) fault after).mp hstep
      exact ⟨fault, after, rfl, huntouched event fault after hfails⟩

end Desk

end Launcher
