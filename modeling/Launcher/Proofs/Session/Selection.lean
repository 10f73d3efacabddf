import Launcher.Proofs.Session.Cursor
import Launcher.Proofs.Session.View

/-!
# What is highlighted is what is launched

The cursor, the matches and the index that they were found in are three parts of a session, and an
answer from memory touches none of them. `Session.Reshows` says what every operation but a move of
the cursor does to the first two: nothing, or other matches are shown and the first of them is
marked. So the cursor marks one of the matches shown or none if there are none (`Session.Marked`),
which a move keeps as well (`Cursor.Marks.apply`), one event keeps (`step_marked`) and every history
(`history_marked`).

That a marked match has an entry, and in the catalog in use, is what `history_sound` adds:

> `history_launches_highlighted`: after every history either nothing is shown, nothing is marked and
> nothing is launched, or one row is marked, the entry under the cursor is the one that row shows,
> and executing hands the action of that entry to the handler once and changes nothing else.
-/

namespace Launcher

/-! ## The session -/

namespace Session

/-- The cursor marks one of the matches shown, or none if there are none. -/
structure Marked (pageSize : Int) (session : Session) : Prop where
  cursor : session.cursor.Marks pageSize
  count : session.cursor.count = session.shown.length

/-- The matches shown and the cursor are as they were, or other matches are shown and the first of
them is marked. -/
def Reshows (before after : Session) : Prop :=
  (after.shown = before.shown ∧ after.cursor = before.cursor) ∨
    after.cursor = before.cursor.reset after.shown.length

/-- The cursor is on the first row of what is shown. -/
def AtFirst (session : Session) : Prop :=
  session.cursor.index = if session.shown.isEmpty then none else some (.whole 0)

variable {pageSize : Int} {before after : Session}

/-- A cursor that has been reset is on the first row, if there is one. -/
theorem atFirst_of_reset {session : Session} {cursor : Cursor}
    (h : session.cursor = cursor.reset session.shown.length) : session.AtFirst := by
  unfold AtFirst
  rw [h]
  cases session.shown with
  | nil => rfl
  | cons first rest =>
    have hsome : ¬(((first :: rest).length : Int) ≤ 0) := by
      rw [List.length_cons]
      omega
    unfold Cursor.reset
    rw [if_neg hsome]
    rfl

theorem reshows_refl (session : Session) : session.Reshows session := Or.inl ⟨rfl, rfl⟩

/-- What is shown anew keeps a row marked. -/
theorem Marked.reshows (h : before.Marked pageSize) (hr : before.Reshows after) :
    after.Marked pageSize := by
  rcases hr with ⟨hshown, hcursor⟩ | hcursor
  · exact ⟨hcursor ▸ h.cursor, by rw [hcursor, hshown]; exact h.count⟩
  · refine ⟨hcursor ▸ Cursor.marks_reset h.cursor.page _, ?_⟩
    rw [hcursor]
    exact Int.toNat_natCast _

/-- A search at once shows its result with the cursor on the first row, or shows nothing new. -/
theorem reshows_run (session : Session) (query : Query) :
    session.Reshows (session.run query).2 := by
  rw [run_eq]
  split
  · exact Or.inl ⟨rfl, rfl⟩
  · split
    · exact Or.inl ⟨rfl, rfl⟩
    · exact Or.inr rfl

/-- Flushing shows its result with the cursor on the first row, or shows nothing new. -/
theorem reshows_flush (session : Session) : session.Reshows session.flush.2 := by
  rw [flush_eq]
  split
  · exact session.reshows_refl
  · exact session.released.reshows_run _

/-- A tick shows its result with the cursor on the first row, or shows nothing new. -/
theorem reshows_tick (session : Session) (now : Value) :
    session.Reshows (session.tick now).2 := by
  rcases session.tick_cases now with ⟨fault, he⟩ | he | ⟨-, he⟩
  · rw [he]; exact session.reshows_refl
  · rw [he]; exact session.reshows_refl
  · rw [he]; exact session.reshows_flush

/-- Typing shows its result with the cursor on the first row, or shows nothing new. -/
theorem reshows_textChanged (session : Session) (query : Query) (now : Value) :
    session.Reshows (session.textChanged query now).2 := by
  rcases session.textChanged_cases query now with
    ⟨-, he⟩ | ⟨debounce, -, ⟨fault, he⟩ | ⟨holding, -, he⟩⟩
  · rw [he]; exact session.reshows_run query
  · rw [he]; exact session.reshows_refl
  · rw [he]; exact Or.inl ⟨rfl, rfl⟩

/-- A new catalog is shown with the cursor on the first row, or nothing new is. -/
theorem reshows_rebuild (session : Session) (entries : List Entry) :
    session.Reshows (session.rebuild entries).2 := by
  rcases session.rebuild_cases entries with ⟨fault, -, he⟩ | ⟨index, -, he⟩
  · rw [he]; exact session.reshows_refl
  · rw [he]; exact (session.renewed index).reshows_run session.query

/-- Handing over a query shows nothing new. -/
theorem reshows_submit (session : Session) (query : Query) (accepted : Except Fault Nat) :
    session.Reshows (session.submit query accepted).2 := by
  rcases session.submit_cases query accepted with
    ⟨-, he⟩ | ⟨-, ⟨fault, -, he⟩ | ⟨ticket, -, he⟩⟩
  · rw [he]; exact Or.inl ⟨rfl, rfl⟩
  · rw [he]; exact Or.inl ⟨rfl, rfl⟩
  · rw [he]; exact Or.inl ⟨rfl, rfl⟩

/-- Polling shows its result with the cursor on the first row, or shows nothing new. -/
theorem reshows_poll (session : Session) (status : Nat → JobStatus) :
    session.Reshows (session.poll status).2 := by
  rcases session.poll_cases status with
    ⟨-, he⟩ | ⟨p, -, -, ⟨-, he⟩ | ⟨-, ⟨found, -, he⟩ | ⟨fault, -, he⟩⟩⟩
  · rw [he]; exact session.reshows_refl
  · rw [he]; exact Or.inl ⟨rfl, rfl⟩
  · rw [he]; exact Or.inr rfl
  · rw [he]; exact Or.inl ⟨rfl, rfl⟩

/-- Moving the cursor keeps it on the matches shown. -/
theorem Marked.navigate {session : Session} {given : Value} (h : session.Marked pageSize)
    (hn : session.navigate given = .ok after) : after.Marked pageSize := by
  unfold Session.navigate at hn
  obtain ⟨command, -, hn⟩ := exists_of_bind_eq_ok hn
  obtain ⟨cursor, hc, hn⟩ := exists_of_bind_eq_ok hn
  cases hn
  obtain ⟨moved, hmoved, hmarks, hcount⟩ := h.cursor.apply command
  rw [hmoved] at hc
  cases hc
  exact ⟨hmarks, hcount.trans h.count⟩

/-- A session starts with the first match marked, if it finds any. -/
theorem marked_start {config : Config} {entries : List Entry} {session : Session}
    (hstart : start config entries = .ok session) (hpage : config.pageSize = .int pageSize) :
    session.Marked pageSize := by
  obtain ⟨number, index, cursor, debounce, -, -, hc, -, flag, hr⟩ := start_cases hstart
  rw [hpage] at hc
  unfold Cursor.create at hc
  obtain ⟨page, hp, hc⟩ := exists_of_bind_eq_ok hc
  cases hc
  obtain ⟨rfl, -⟩ := Value.positive_int hp
  have hblank : (blank number index ⟨.whole pageSize, 0, none⟩ debounce).Marked pageSize :=
    ⟨⟨rfl, Or.inl ⟨rfl, rfl⟩⟩, rfl⟩
  have hrun := hblank.reshows (reshows_run _ (Query.ofText ""))
  rw [hr] at hrun
  exact hrun

/-- The row is under the cursor, and the entry is what it shows: the match in that row is a match of
this entry of the catalog in use, and the result shown in it has its title and subtitle. -/
structure Highlights (session : Session) (row : Nat) (entry : Entry) : Prop where
  index : session.cursor.index = some (.whole row)
  row_lt : row < session.cursor.count
  selected : session.selected? = .ok (some entry)
  result : ∃ m results, session.shown[row]? = some m ∧
    session.index.entries[m.position]? = some entry ∧ session.results = .ok results ∧
    results[row]? = some ⟨entry.title, entry.subtitle, m.score⟩

end Session

/-- What is shown of matches, row by row. -/
theorem Index.getElem?_results {index : Index} {found : List (Match Float)} {results : List Result}
    {entry : Entry} {m : Match Float} {row : Nat} (h : index.results found = .ok results)
    (hm : found[row]? = some m) (hentry : index.entries[m.position]? = some entry) :
    results[row]? = some ⟨entry.title, entry.subtitle, m.score⟩ := by
  obtain ⟨hlength, hrows⟩ := List.forall₂_iff_get.mp (results_eq_ok_iff.mp h)
  obtain ⟨hlt, rfl⟩ := List.getElem?_eq_some_iff.mp hm
  have hlt' : row < results.length := hlength ▸ hlt
  obtain ⟨other, hother, hresult⟩ := hrows row hlt hlt'
  rw [List.get_eq_getElem] at hother hresult
  rw [hother] at hentry
  cases hentry
  rw [List.getElem?_eq_getElem hlt']
  exact congrArg some hresult

/-- A settled session that is marked highlights an entry, or shows nothing. -/
theorem Session.Settled.highlights {limit : Nat} {pageSize : Int} {session : Session}
    (h : session.Settled limit) (hm : session.Marked pageSize) :
    (session.shown = [] ∧ session.cursor.index = none ∧ session.selected? = .ok none) ∨
    ∃ row entry, session.Highlights row entry := by
  rcases hm.cursor.index with ⟨hcount, hnone⟩ | ⟨row, hlt, hrow⟩
  · refine Or.inl ⟨List.length_eq_zero_iff.mp (hm.count.symm.trans hcount), hnone, ?_⟩
    unfold selected?
    rw [hnone]
  · have hshown : row < session.shown.length := hm.count ▸ hlt
    have hmatch : session.shown[row]? = some session.shown[row] :=
      List.getElem?_eq_getElem hshown
    have hposition := h.position_lt _ (List.getElem_mem hshown)
    have hentry := List.getElem?_eq_getElem hposition
    obtain ⟨results, hresults, hfound⟩ := h.exists_results
    refine Or.inr ⟨row, _, hrow, hlt, ?_, _, results, hmatch, hentry, hresults,
      Index.getElem?_results hfound hmatch hentry⟩
    have hplace : placeOf? session.shown.length row = some row := if_pos (Int.natCast_nonneg row)
    have hentryOf : session.index.entryOf session.shown[row]
        = .ok session.index.entries[session.shown[row].position] := by
      unfold Index.entryOf
      rw [hentry]
    unfold selected?
    rw [hrow, h.shownIndex]
    simp only [Number.whole?, hplace, Option.bind_some, hmatch, hentryOf]
    rfl

/-! ## The desk -/

/-- What the handler is given of an action that is executed. -/
def Handler.receives (action : Value) : Handler → List Value
  | .absent => []
  | .collecting | .failing _ => [action]

/-- What executing an action answers: the action, or the fault of the handler. -/
def Handler.answers (action : Value) : Handler → Except Fault Answer
  | .absent | .collecting => .ok (.action action)
  | .failing fault => .error fault

namespace Desk

variable {pageSize : Int} {limit : Nat} {desk : Desk}

/-- **One event keeps the cursor on the matches shown.** -/
theorem step_marked : ∀ (event : Event) {desk : Desk}, desk.session.Marked pageSize →
    (desk.step event).2.session.Marked pageSize := by
  intro event
  induction event with
  | text query => intro desk h; exact h.reshows (Session.reshows_textChanged ..)
  | tick now => intro desk h; exact h.reshows (Session.reshows_tick ..)
  | flush => intro desk h; exact h.reshows (Session.reshows_flush _)
  | rebuild entries => intro desk h; exact h.reshows (Session.reshows_rebuild ..)
  | submit query => intro desk h; exact h.reshows (Session.reshows_submit ..)
  | poll => intro desk h; exact h.reshows (Session.reshows_poll ..)
  | close => intro desk h; exact h.reshows (Or.inl ⟨rfl, rfl⟩)
  | navigate given =>
    intro desk h
    unfold step
    cases hn : desk.session.navigate given with
    | error fault => exact h
    | ok session => exact h.navigate hn
  | closing event ih =>
    intro desk h
    exact (ih h).reshows (Or.inl ⟨rfl, rfl⟩)
  | clock | execute | runJobs | failJobs | failJob | refuse | wait =>
    intro desk h
    rw [(step_aside (by trivial) desk).1]
    exact h

/-- After every history the cursor marks one of the matches shown, or none if there are none. -/
theorem history_marked {events : List Event} (h : desk.session.Marked pageSize) :
    (desk.history events).session.Marked pageSize :=
  @history_induction (fun desk => desk.session.Marked pageSize) (fun _ => True)
    (fun _ event _ => step_marked event) events desk (fun _ _ => trivial) h

/-- No event puts another handler in the place of the one that is there. -/
theorem step_handler : ∀ (event : Event) {desk : Desk},
    (desk.step event).2.handler = desk.handler := by
  intro event
  induction event with
  | navigate given =>
    intro desk
    rcases desk.navigate_cases given with ⟨fault, he⟩ | ⟨cursor, he⟩
    · rw [he]
    · rw [he]
  | execute =>
    intro desk
    show desk.execute.2.handler = desk.handler
    unfold execute
    split
    · rfl
    · rfl
    · simp only
      split <;> rfl
  | runJobs position =>
    intro desk
    show (desk.runJobs position).2.handler = desk.handler
    unfold runJobs
    split
    · rfl
    · split <;> rfl
  | wait =>
    intro desk
    show desk.wait.2.handler = desk.handler
    unfold wait runJobs
    split
    · rfl
    · simp only
      split <;> split <;> rfl
  | closing event ih => intro desk; exact ih
  | text | tick | flush | rebuild | submit | poll | close | clock | failJobs | failJob | refuse =>
    intro desk
    rfl

/-- The handler of a desk stays. -/
theorem history_handler (events : List Event) : (desk.history events).handler = desk.handler :=
  @history_induction (fun after => after.handler = desk.handler) (fun _ => True)
    (fun _ event _ h => (step_handler event).trans h) events desk (fun _ _ => trivial) rfl

/-- Executing with nothing under the cursor does nothing. -/
theorem execute_of_none (h : desk.session.selected? = .ok none) :
    desk.step .execute = (.ok .nothing, desk) := by
  show desk.execute = _
  unfold execute
  rw [h]

/-- Executing hands the action of the entry under the cursor to the handler. -/
theorem execute_of_selected {entry : Entry} (h : desk.session.selected? = .ok (some entry)) :
    desk.step .execute = (desk.handler.answers entry.action,
      { desk with launched := desk.launched ++ desk.handler.receives entry.action }) := by
  show desk.execute = _
  unfold execute
  rw [h]
  obtain ⟨session, clock, jobs, refusing, handler, launched⟩ := desk
  cases handler with
  | absent =>
    show _ = (_, Desk.mk session clock jobs refusing .absent (launched ++ []))
    rw [List.append_nil]
    rfl
  | collecting => rfl
  | failing fault => rfl

/-- In a sound desk a marked session highlights an entry, or shows nothing. -/
theorem Sound.highlights (h : desk.Sound limit) (hm : desk.session.Marked pageSize) :
    (desk.session.shown = [] ∧ desk.session.cursor.index = none ∧
      desk.session.selected? = .ok none) ∨
    ∃ row entry, desk.session.Highlights row entry :=
  h.settled.highlights hm

/-- **What is highlighted is what is launched.** After every history of a desk the cursor has as
many rows as there are matches. If there are none, nothing is under the cursor and executing does
nothing. Otherwise one row is under the cursor, and executing hands the action of the entry that it
shows to the handler, if there is one, answers that action, and changes nothing else. -/
theorem history_launches_highlighted {config : Config} {entries : List Entry} {session : Session}
    (handler : Handler) (hlimit : config.limit = .int limit)
    (hpage : config.pageSize = .int pageSize) (hweights : config.weights.Numeric)
    (hstart : Session.start config entries = .ok session) {events : List Event}
    (htyped : ∀ event ∈ events, event.IsTyped) :
    let now := (create session handler).history events
    now.session.cursor.count = now.session.shown.length ∧
    ((now.session.shown = [] ∧ now.session.cursor.index = none ∧
        now.session.selected? = .ok none ∧ now.step .execute = (.ok .nothing, now)) ∨
      ∃ row entry, now.session.Highlights row entry ∧
        now.step .execute = (handler.answers entry.action,
          { now with launched := now.launched ++ handler.receives entry.action })) := by
  intro now
  have hsound : now.Sound limit := history_sound (.intro handler hlimit hweights hstart) htyped
  have hmarked : now.session.Marked pageSize :=
    history_marked (Session.marked_start hstart hpage)
  have hhandler : now.handler = handler := history_handler events
  refine ⟨hmarked.count, ?_⟩
  rcases hsound.highlights hmarked with ⟨hempty, hnone, hselected⟩ | ⟨row, entry, hhigh⟩
  · exact Or.inl ⟨hempty, hnone, hselected, execute_of_none hselected⟩
  · refine Or.inr ⟨row, entry, hhigh, ?_⟩
    rw [execute_of_selected hhigh.selected, hhandler]

/-- A query is found, the cursor goes a page down, and the catalog is replaced by another one. -/
def trialChoice : List Event :=
  [.submit (Query.ofText "c"), .runJobs none, .poll, .navigate (.text "page-down"), .execute,
    .rebuild trialEntries.reverse, .navigate (.text "next")]

theorem trial_launches_highlighted : ∃ session,
    Session.start trialConfig trialEntries = .ok session ∧ trialConfig.limit = .int 2 ∧
    trialConfig.pageSize = .int 8 ∧ trialConfig.weights.Numeric ∧
    (∀ event ∈ trialChoice, event.IsTyped) ∧
    let now := (create session .collecting).history trialChoice
    now.session.cursor.count = now.session.shown.length ∧
    ((now.session.shown = [] ∧ now.session.cursor.index = none ∧
        now.session.selected? = .ok none ∧ now.step .execute = (.ok .nothing, now)) ∨
      ∃ row entry, now.session.Highlights row entry ∧
        now.step .execute = (Handler.answers entry.action .collecting,
          { now with launched := now.launched ++ Handler.receives entry.action .collecting })) := by
  obtain ⟨desk, hdesk⟩ := exists_trial
  obtain ⟨session, hstart, -⟩ := start_of_trial hdesk
  have htyped : ∀ event ∈ trialChoice, event.IsTyped := by
    simp [trialChoice, Event.IsTyped]
  exact ⟨session, hstart, rfl, rfl, ⟨Weights.standard, rfl⟩, htyped,
    history_launches_highlighted .collecting rfl rfl ⟨Weights.standard, rfl⟩ hstart htyped⟩

end Desk

end Launcher
