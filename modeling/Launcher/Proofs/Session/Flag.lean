import Launcher.Proofs.Session.Order
import Launcher.Proofs.Session.Selection

/-!
# What an operation answers about the view is true

An operation that answers `true` says that it shows something else now, and one that answers `false`
that it shows what it showed before. `Session.Tells` says what that means: with `true` the query
that was asked for is shown and its first row is marked, with `false` nothing has changed in the
view and in what is remembered of it (`Session.Keeps`).

Which query a tick, a flush or a poll is asked for stands in the ledger of the requests: it is the
text typed last, or the query scheduled last. A search that is answered from memory shows nothing
anew, and so its `false` is only right because the query remembered is always the one shown. That is
also why a query that is submitted is scheduled exactly if it is another one.

> **`answers_true`**: after every history, what typing, a tick, a flush and a poll answer is true of
> the view; handing over a query leaves the view alone and answers whether it is another query.
-/

namespace Launcher

namespace Session

/-- What is shown, what is marked in it and what is remembered of it stay as they are. -/
structure Keeps (before after : Session) : Prop where
  query : after.query = before.query
  shown : after.shown = before.shown
  shownIndex : after.shownIndex = before.shownIndex
  cursor : after.cursor = before.cursor
  slot : after.memo.slot = before.memo.slot

/-- The answer is true of the view: with `true` a query that was asked for is shown and its first
row is marked, with `false` the view is as it was. -/
structure Tells (before : Session) (asked : Query → Prop) (outcome : Except Fault Bool × Session) :
    Prop where
  yes : outcome.1 = .ok true → asked outcome.2.query ∧ outcome.2.AtFirst
  no : outcome.1 = .ok false → before.Keeps outcome.2

variable {limit : Nat} {session before after : Session} {query : Query} {asked : Query → Prop}
  {ledger : Ledger}

theorem keeps_refl (session : Session) : session.Keeps session := ⟨rfl, rfl, rfl, rfl, rfl⟩

/-- What keeps the view of a session that holds nothing keeps the view of the one that does. -/
theorem Keeps.of_released (h : session.released.Keeps after) : session.Keeps after :=
  ⟨h.query, h.shown, h.shownIndex, h.cursor, h.slot⟩

/-! ## The operations -/

/-- An operation that keeps the view may answer `false` or fail. -/
theorem tells_kept {result : Except Fault Bool} (h : before.Keeps after)
    (hresult : result ≠ .ok true) : before.Tells asked (result, after) :=
  ⟨fun hyes => absurd hyes hresult, fun _ => h⟩

/-- An operation that shows matches of a query that was asked for may answer `true`. -/
theorem tells_shown {cursor : Cursor} (hasked : asked after.query)
    (hcursor : after.cursor = cursor.reset after.shown.length) :
    before.Tells asked (.ok true, after) :=
  ⟨fun _ => ⟨hasked, atFirst_of_reset hcursor⟩, nofun⟩

/-- Searching at once tells whether the query is shown anew. -/
theorem tells_run (session : Session) (hasked : asked query) :
    session.Tells asked (session.run query) := by
  rw [run_eq]
  split
  · exact tells_kept ⟨rfl, rfl, rfl, rfl, rfl⟩ nofun
  · split
    · exact tells_kept ⟨rfl, rfl, rfl, rfl, rfl⟩ nofun
    · exact tells_shown hasked rfl

/-- Typing a text tells whether it is shown. -/
theorem tells_textChanged (session : Session) (query : Query) (now : Value) :
    session.Tells (· = query) (session.textChanged query now) := by
  rcases session.textChanged_cases query now with
    ⟨-, he⟩ | ⟨debounce, -, ⟨fault, he⟩ | ⟨holding, -, he⟩⟩
  · rw [he]; exact session.tells_run rfl
  · rw [he]; exact tells_kept session.keeps_refl nofun
  · rw [he]; exact tells_kept ⟨rfl, rfl, rfl, rfl, rfl⟩ nofun

/-- A flush is asked for the text typed last. -/
theorem tells_flush (h : ledger.Fits session) :
    session.Tells (ledger.requests[ledger.typed]? = some ·) session.flush := by
  rw [flush_eq]
  cases hw : session.waiting? with
  | none => exact tells_kept session.keeps_refl nofun
  | some held =>
    have hrun : session.released.Tells (ledger.requests[ledger.typed]? = some ·)
        (session.released.run held.query) := session.released.tells_run (h.held held hw).1
    -- what is held goes away, and that is no part of the view
    exact ⟨hrun.yes, fun hfalse => (hrun.no hfalse).of_released⟩

/-- A tick tells whether the text typed last is shown. -/
theorem tells_tick (h : ledger.Fits session) (now : Value) :
    session.Tells (ledger.requests[ledger.typed]? = some ·) (session.tick now) := by
  rcases session.tick_cases now with ⟨fault, he⟩ | he | ⟨-, he⟩
  · rw [he]; exact tells_kept session.keeps_refl nofun
  · rw [he]; exact tells_kept session.keeps_refl nofun
  · rw [he]; exact tells_flush h

/-- A poll is asked for the query scheduled last. -/
theorem tells_poll (h : ledger.Fits session) (status : Nat → JobStatus) :
    session.Tells (ledger.requests[ledger.sent]? = some ·) (session.poll status) := by
  rcases session.poll_cases status with
    ⟨-, he⟩ | ⟨p, hp, -, ⟨-, he⟩ | ⟨-, ⟨found, -, he⟩ | ⟨fault, -, he⟩⟩⟩
  · rw [he]; exact tells_kept session.keeps_refl nofun
  · rw [he]; exact tells_kept ⟨rfl, rfl, rfl, rfl, rfl⟩ nofun
  · rw [he]; exact tells_shown (h.pending p hp).1 rfl
  · rw [he]; exact tells_kept ⟨rfl, rfl, rfl, rfl, rfl⟩ nofun

/-- Handing over a query changes nothing shown. -/
theorem keeps_submit (session : Session) (query : Query) (accepted : Except Fault Nat) :
    session.Keeps (session.submit query accepted).2 := by
  rcases session.submit_cases query accepted with
    ⟨-, he⟩ | ⟨-, ⟨fault, -, he⟩ | ⟨ticket, -, he⟩⟩
  · rw [he]; exact ⟨rfl, rfl, rfl, rfl, rfl⟩
  · rw [he]; exact ⟨rfl, rfl, rfl, rfl, rfl⟩
  · rw [he]; exact ⟨rfl, rfl, rfl, rfl, rfl⟩

/-- Handing over the query shown answers `false`; another one is scheduled if the worker takes it.
-/
theorem Settled.submit_eq (h : session.Settled limit) (hq : query.IsText)
    (accepted : Except Fault Nat) :
    (query = session.query → (session.submit query accepted).1 = .ok false) ∧
      (query ≠ session.query →
        (session.submit query accepted).1 = accepted.map fun _ => true) := by
  have hholds := Memo.holds_iff_of_slot h.slot h.text hq
  rcases session.submit_cases query accepted with ⟨hh, he⟩ | ⟨hh, hother⟩
  · rw [he]
    exact ⟨fun _ => rfl, fun hne => absurd (hholds.mp hh) hne⟩
  · refine ⟨fun hsame => ?_, fun _ => ?_⟩
    · rw [hholds.mpr hsame] at hh
      cases hh
    · rcases hother with ⟨fault, rfl, he⟩ | ⟨ticket, rfl, he⟩
      · rw [he]; rfl
      · rw [he]; rfl

/-- Typing that is searched at once answers `false` for the query shown and `true` for any other. -/
theorem Settled.textChanged_eq (h : session.Settled limit) (hq : query.IsText)
    (hd : session.debounce = none) (now : Value) :
    (query = session.query → (session.textChanged query now).1 = .ok false) ∧
      (query ≠ session.query → (session.textChanged query now).1 = .ok true) := by
  have he : session.textChanged query now = session.run query := by
    unfold Session.textChanged
    rw [hd]
  rw [he]
  rcases h.run_cases hq with ⟨hsame, hr⟩ | ⟨hne, found, -, hr⟩
  · rw [hr]
    exact ⟨fun _ => rfl, fun hne => absurd hsame hne⟩
  · rw [hr]
    exact ⟨fun hsame => absurd hsame hne, fun _ => rfl⟩

end Session

namespace Desk

variable {limit : Nat} {desk : Desk}

/-- A desk that has just been opened fits the ledger without requests. -/
theorem Opened.fits_blank (h : desk.Opened limit) : Ledger.blank.Fits desk.session := by
  cases h with
  | intro handler hlimit hweights hstart =>
    exact Ledger.fits_blank (Session.waiting?_start hstart) (Session.pending_start hstart)

/-- **What an operation answers about the view is true**, after every history and at every time.
Typing is asked for the text typed, a tick and a flush for the text typed last, and a poll for the
query scheduled last. Handing over a query never changes the view; it answers `false` for the query
shown and, as far as the worker takes it, `true` for any other. -/
theorem answers_true (hopen : desk.Opened limit) {events : List Event}
    (htyped : ∀ event ∈ events, event.IsTyped) :
    let now := (desk.history events).session
    let ledger := desk.ledger events
    (∀ query time, now.Tells (· = query) (now.textChanged query time)) ∧
    (∀ time, now.Tells (ledger.requests[ledger.typed]? = some ·) (now.tick time)) ∧
    now.Tells (ledger.requests[ledger.typed]? = some ·) now.flush ∧
    (∀ status, now.Tells (ledger.requests[ledger.sent]? = some ·) (now.poll status)) ∧
    ∀ query, query.IsText →
      (now.debounce = none → ∀ time,
        (query = now.query → (now.textChanged query time).1 = .ok false) ∧
        (query ≠ now.query → (now.textChanged query time).1 = .ok true)) ∧
      ∀ accepted, now.Keeps (now.submit query accepted).2 ∧
        (query = now.query → (now.submit query accepted).1 = .ok false) ∧
        (query ≠ now.query → (now.submit query accepted).1 = accepted.map fun _ => true) := by
  intro now ledger
  have hfits : ledger.Fits now := track_fits events hopen.fits_blank
  have hsettled : now.Settled limit := (history_sound hopen htyped).settled
  refine ⟨now.tells_textChanged, Session.tells_tick hfits, Session.tells_flush hfits,
    Session.tells_poll hfits, fun query hq => ⟨hsettled.textChanged_eq hq, fun accepted => ?_⟩⟩
  exact ⟨now.keeps_submit query accepted, hsettled.submit_eq hq accepted⟩

/-- A text is held while a query is handed over and found, and the catalog is replaced before. -/
def trialAnswers : List Event :=
  [.text (Query.ofText "co"), .navigate (.text "next"), .rebuild trialEntries.tail,
    .submit (Query.ofText "goo"), .runJobs none]

theorem trial_answers_true : ∃ desk, trial? = some desk ∧ desk.Opened 2 ∧
    (∀ event ∈ trialAnswers, event.IsTyped) ∧
    let now := (desk.history trialAnswers).session
    let ledger := desk.ledger trialAnswers
    now.Tells (ledger.requests[ledger.typed]? = some ·) now.flush ∧
    now.Tells (ledger.requests[ledger.sent]? = some ·)
      (now.poll (desk.history trialAnswers).status) ∧
    now.Keeps (now.submit (Query.ofText "") (.ok 1)).2 := by
  obtain ⟨desk, hdesk⟩ := exists_trial
  have htyped : ∀ event ∈ trialAnswers, event.IsTyped := by
    simp [trialAnswers, Event.IsTyped]
  obtain ⟨-, -, hflush, hpoll, hquery⟩ := answers_true (opened_trial hdesk) htyped
  have hempty : (Query.ofText "").IsText := ⟨"", rfl⟩
  exact ⟨desk, hdesk, opened_trial hdesk, htyped, hflush, hpoll _,
    ((hquery _ hempty).2 (.ok 1)).1⟩

end Desk

end Launcher
