import Launcher.Proofs.Session.View

/-!
# A query that the worker refuses

A query that the worker refuses is a fault, and nothing of the session changes but the number of its
generation. That number is not seen by itself: sessions that differ in it, and in the generation of
their background search, look the same (`Session.seen`). Whether the difference is ever noticed
depends on the background search alone.

`Redated` relates a session to one with other numbers that wants its background search exactly if
the first one does. Every event answers alike on two such desks and leaves two such desks
(`redated_step`), so whatever happens to them, they cannot be told apart (`record_eq`).

> `refusal_unnoticed_iff`: a desk behaves after a refused query as it would have without it exactly
> if it had no background search that was still wanted.

If it had one, that search is outdated from then on although it is still there, and its result is
never shown; `trial_refusal_noticed` is such a history.
-/

namespace Launcher

/-- The background search without its generation. -/
def Pending.undated (pending : Pending) : Pending := { pending with generation := 0 }

/-- Two background searches, with the generations of their sessions, that are the same but for the
generation, and that are either both of the newest generation or both not. -/
def SameSearch : Option Pending → Nat → Option Pending → Nat → Prop
  | none, _, none, _ => True
  | some p, newest, some p', newest' =>
    p' = { p with generation := p'.generation } ∧
      p.generation ≤ newest ∧ p'.generation ≤ newest' ∧
        (p'.generation = newest' ↔ p.generation = newest)
  | _, _, _, _ => False

/-- In a new generation both are outdated. -/
theorem SameSearch.succ {waiting waiting' : Option Pending} {newest newest' : Nat}
    (h : SameSearch waiting newest waiting' newest') :
    SameSearch waiting (newest + 1) waiting' (newest' + 1) := by
  unfold SameSearch at h ⊢
  split at h
  · trivial
  · obtain ⟨hp, hle, hle', -⟩ := h
    exact ⟨hp, by omega, by omega, by omega⟩
  · exact h.elim

theorem SameSearch.undated {waiting waiting' : Option Pending} {newest newest' : Nat}
    (h : SameSearch waiting newest waiting' newest') :
    waiting'.map Pending.undated = waiting.map Pending.undated := by
  unfold SameSearch at h
  split at h
  · rfl
  · rw [Option.map_some, Option.map_some, h.1]
    rfl
  · exact h.elim

namespace Session

/-- The session without the numbers that generations are told apart by. -/
def seen (session : Session) : Session :=
  { session with generation := 0, pending := session.pending.map Pending.undated }

/-- The session with other numbers for its generation and for that of its background search, which
is wanted as before. -/
def Redated (session session' : Session) : Prop :=
  ∃ newest waiting, session' = { session with generation := newest, pending := waiting } ∧
    SameSearch session.pending session.generation waiting newest

variable {session session' : Session}

/-- The numbers are not seen. -/
theorem Redated.seen (h : session.Redated session') : session'.seen = session.seen := by
  obtain ⟨newest, waiting, rfl, hsame⟩ := h
  unfold Session.seen
  rw [← hsame.undated]

/-! ## Operations on redated sessions -/

/-- A search at once does the same to sessions that differ in their generation. -/
theorem redated_run (h : session.Redated session') (query : Query) :
    (session'.run query).1 = (session.run query).1 ∧
      (session.run query).2.Redated (session'.run query).2 := by
  obtain ⟨newest, waiting, rfl, hsame⟩ := h
  rw [run_eq, run_eq]
  dsimp only
  split
  · exact ⟨rfl, newest, none, rfl, trivial⟩
  · split
    · exact ⟨rfl, newest, waiting, rfl, hsame⟩
    · exact ⟨rfl, newest, none, rfl, trivial⟩

theorem Redated.released (h : session.Redated session') :
    session.released.Redated session'.released := by
  obtain ⟨newest, waiting, rfl, hsame⟩ := h
  exact ⟨newest, waiting, rfl, hsame⟩

theorem Redated.close (h : session.Redated session') : session.close.Redated session'.close := by
  obtain ⟨newest, waiting, rfl, -⟩ := h
  exact ⟨newest, none, rfl, trivial⟩

theorem Redated.waiting?_eq (h : session.Redated session') :
    session'.waiting? = session.waiting? := by
  obtain ⟨newest, waiting, rfl, -⟩ := h
  rfl

/-- Flushing does the same to sessions that differ in their generation. -/
theorem redated_flush (h : session.Redated session') :
    session'.flush.1 = session.flush.1 ∧ session.flush.2.Redated session'.flush.2 := by
  rw [flush_eq, flush_eq, h.waiting?_eq]
  cases session.waiting? with
  | none => exact ⟨rfl, h⟩
  | some held => exact redated_run h.released held.query

/-- A tick does the same to sessions that differ in their generation. -/
theorem redated_tick (h : session.Redated session') (now : Value) :
    (session'.tick now).1 = (session.tick now).1 ∧
      (session.tick now).2.Redated (session'.tick now).2 := by
  have hd : session'.debounce = session.debounce := by
    obtain ⟨newest, waiting, rfl, -⟩ := h
    rfl
  unfold tick
  rw [hd]
  split
  · exact ⟨rfl, h⟩
  · split
    · exact ⟨rfl, h⟩
    · split
      · exact redated_flush h
      · exact ⟨rfl, h⟩

/-- Typing does the same to sessions that differ in their generation. -/
theorem redated_textChanged (h : session.Redated session') (query : Query) (now : Value) :
    (session'.textChanged query now).1 = (session.textChanged query now).1 ∧
      (session.textChanged query now).2.Redated (session'.textChanged query now).2 := by
  have hd : session'.debounce = session.debounce := by
    obtain ⟨newest, waiting, rfl, -⟩ := h
    rfl
  unfold textChanged
  rw [hd]
  split
  · exact redated_run h query
  · split
    · exact ⟨rfl, h⟩
    · obtain ⟨newest, waiting, rfl, hsame⟩ := h
      exact ⟨rfl, newest, waiting, rfl, hsame⟩

/-- A move of the cursor is the same in sessions that differ in their generation. -/
theorem redated_navigate (h : session.Redated session') (given : Value) :
    (∃ fault, session.navigate given = .error fault ∧ session'.navigate given = .error fault) ∨
    ∃ cursor, session.navigate given = .ok { session with cursor } ∧
      session'.navigate given = .ok { session' with cursor } := by
  obtain ⟨newest, waiting, rfl, -⟩ := h
  unfold navigate
  cases Navigation.ofValue given with
  | error fault => exact Or.inl ⟨fault, rfl, rfl⟩
  | ok command =>
    simp only [bind, Except.bind]
    cases session.cursor.apply command with
    | error fault => exact Or.inl ⟨fault, rfl, rfl⟩
    | ok cursor => exact Or.inr ⟨cursor, rfl, rfl⟩

theorem Redated.renewed (h : session.Redated session') (index : Index) :
    (session.renewed index).Redated (session'.renewed index) := by
  obtain ⟨newest, waiting, rfl, hsame⟩ := h
  exact ⟨newest + 1, waiting, rfl, hsame.succ⟩

theorem Redated.refused (h : session.Redated session') :
    session.refused.Redated session'.refused := by
  obtain ⟨newest, waiting, rfl, hsame⟩ := h
  exact ⟨newest + 1, waiting, rfl, hsame.succ⟩

theorem Redated.scheduled (h : session.Redated session') (query : Query) (ticket : Nat) :
    (session.scheduled query ticket).Redated (session'.scheduled query ticket) := by
  obtain ⟨newest, waiting, rfl, -⟩ := h
  refine ⟨newest + 1, _, rfl, rfl, Nat.le_refl _, Nat.le_refl _, ?_⟩
  exact ⟨fun _ => rfl, fun _ => rfl⟩

/-- A new catalog does the same to sessions that differ in their generation. -/
theorem redated_rebuild (h : session.Redated session') (entries : List Entry) :
    (session'.rebuild entries).1 = (session.rebuild entries).1 ∧
      (session.rebuild entries).2.Redated (session'.rebuild entries).2 := by
  have hw : session'.index.weights = session.index.weights ∧ session'.query = session.query := by
    obtain ⟨newest, waiting, rfl, -⟩ := h
    exact ⟨rfl, rfl⟩
  rcases session.rebuild_cases entries with ⟨fault, hb, he⟩ | ⟨index, hb, he⟩
  · rcases session'.rebuild_cases entries with ⟨fault', hb', he'⟩ | ⟨index', hb', -⟩
    · rw [hw.1, hb] at hb'
      cases hb'
      rw [he, he']
      exact ⟨rfl, h⟩
    · rw [hw.1, hb] at hb'; cases hb'
  · rcases session'.rebuild_cases entries with ⟨fault', hb', -⟩ | ⟨index', hb', he'⟩
    · rw [hw.1, hb] at hb'; cases hb'
    · rw [hw.1, hb] at hb'
      cases hb'
      obtain ⟨hfst, hsnd⟩ := redated_run (h.renewed index) session.query
      rw [he, he', hw.2]
      exact ⟨by rw [hfst], hsnd⟩

/-- Handing over a query does the same to sessions that differ in their generation. -/
theorem redated_submit (h : session.Redated session') (query : Query)
    (accepted : Except Fault Nat) :
    (session'.submit query accepted).1 = (session.submit query accepted).1 ∧
      (session.submit query accepted).2.Redated (session'.submit query accepted).2 := by
  have hh : session'.memo.holds query = session.memo.holds query := by
    obtain ⟨newest, waiting, rfl, -⟩ := h
    rfl
  unfold submit
  rw [hh]
  split
  · exact redated_run h query
  · cases accepted with
    | error fault => exact ⟨rfl, h.refused⟩
    | ok ticket => exact ⟨rfl, h.scheduled query ticket⟩

/-- Both sessions want their background search, or neither does. -/
theorem redated_poll (h : session.Redated session') (status : Nat → JobStatus) :
    (session'.poll status).1 = (session.poll status).1 ∧
      (session.poll status).2.Redated (session'.poll status).2 := by
  obtain ⟨newest, waiting, rfl, hsame⟩ := h
  unfold poll
  -- the two background searches are both there or both not
  cases hp : session.pending with
  | none =>
    cases waiting with
    | none => exact ⟨rfl, newest, none, rfl, by rw [hp]; trivial⟩
    | some p' => rw [hp] at hsame; exact hsame.elim
  | some p =>
    cases waiting with
    | none => rw [hp] at hsame; exact hsame.elim
    | some p' =>
      have hkept := hsame
      rw [hp] at hsame
      obtain ⟨hp', -, -, hnewest⟩ := hsame
      have hcurrent : ({ session with generation := newest, pending := some p' } :
          Session).isCurrent p' = session.isCurrent p := by
        unfold isCurrent
        rw [hp', Bool.eq_iff_iff]
        simp only [Bool.and_eq_true, beq_iff_eq, hnewest]
      have hticket : p'.ticket = p.ticket := by rw [hp']
      have hquery : p'.query = p.query := by rw [hp']
      have hindex : p'.index = p.index := by rw [hp']
      simp only [hcurrent, hticket, hquery, hindex]
      cases status p.ticket with
      | running => exact ⟨rfl, newest, some p', rfl, hkept⟩
      | found found =>
        cases session.isCurrent p with
        | false => exact ⟨rfl, newest, none, rfl, trivial⟩
        | true => exact ⟨rfl, newest, none, rfl, trivial⟩
      | failed fault =>
        cases session.isCurrent p with
        | false => exact ⟨rfl, newest, none, rfl, trivial⟩
        | true => exact ⟨rfl, newest, none, rfl, trivial⟩

end Session

namespace Desk

/-- The desk as it looks, without the numbers of its session. -/
def seen (desk : Desk) : Desk := { desk with session := desk.session.seen }

/-- The desk with other numbers in its session. -/
def Redated (desk desk' : Desk) : Prop :=
  ∃ session', desk' = { desk with session := session' } ∧ desk.session.Redated session'

variable {desk desk' : Desk} {limit : Nat}

theorem Redated.seen (h : desk.Redated desk') : desk'.seen = desk.seen := by
  obtain ⟨session', rfl, hs⟩ := h
  unfold Desk.seen
  rw [hs.seen]

/-! ## Events on redated desks -/

/-- An operation that does the same to two sessions does so to their desks. -/
theorem redated_change {session' : Session} {outcome outcome' : Except Fault Bool × Session}
    (h : outcome'.1 = outcome.1 ∧ outcome.2.Redated outcome'.2) :
    ({ desk with session := session' }.afterChange outcome').1 = (desk.afterChange outcome).1 ∧
      (desk.afterChange outcome).2.Redated
        ({ desk with session := session' }.afterChange outcome').2 := by
  unfold afterChange
  rw [h.1]
  exact ⟨rfl, outcome'.2, rfl, h.2⟩

/-- Running jobs does the same to desks that differ in their generation. -/
theorem redated_runJobs (h : desk.Redated desk') (position : Option Int) :
    (desk'.runJobs position).1 = (desk.runJobs position).1 ∧
      (desk.runJobs position).2.Redated (desk'.runJobs position).2 := by
  obtain ⟨session', rfl, hs⟩ := h
  unfold runJobs
  dsimp only
  split
  · exact ⟨rfl, session', rfl, hs⟩
  · split
    · exact ⟨rfl, session', rfl, hs⟩
    · exact ⟨rfl, session', rfl, hs⟩

/-- Executing does the same to desks that differ in their generation. -/
theorem redated_execute (h : desk.Redated desk') :
    desk'.execute.1 = desk.execute.1 ∧ desk.execute.2.Redated desk'.execute.2 := by
  obtain ⟨session', rfl, hs⟩ := h
  have hselected : session'.selected? = desk.session.selected? := by
    obtain ⟨newest, waiting, rfl, -⟩ := hs
    rfl
  unfold execute
  dsimp only
  rw [hselected]
  split
  · exact ⟨rfl, session', rfl, hs⟩
  · exact ⟨rfl, session', rfl, hs⟩
  · split
    · exact ⟨rfl, session', rfl, hs⟩
    · exact ⟨rfl, session', rfl, hs⟩
    · exact ⟨rfl, session', rfl, hs⟩

/-- Waiting does the same to desks that differ in their generation. -/
theorem redated_wait (h : desk.Redated desk') :
    desk'.wait.1 = desk.wait.1 ∧ desk.wait.2.Redated desk'.wait.2 := by
  have hticket : desk'.session.pending.map Pending.ticket
      = desk.session.pending.map Pending.ticket := by
    obtain ⟨session', rfl, newest, waiting, rfl, hsame⟩ := h
    have := congrArg (Option.map Pending.ticket) hsame.undated
    rwa [Option.map_map, Option.map_map] at this
  unfold wait
  cases hp : desk.session.pending with
  | none =>
    cases hp' : desk'.session.pending with
    | none => exact ⟨rfl, h⟩
    | some p' => rw [hp, hp'] at hticket; cases hticket
  | some p =>
    cases hp' : desk'.session.pending with
    | none => rw [hp, hp'] at hticket; cases hticket
    | some p' =>
      rw [hp, hp'] at hticket
      have ht : p'.ticket = p.ticket := Option.some.inj hticket
      obtain ⟨-, hjobs⟩ := redated_runJobs h (some p.ticket)
      have hstatus : (desk'.runJobs (some p.ticket)).2.status p.ticket
          = (desk.runJobs (some p.ticket)).2.status p.ticket := by
        obtain ⟨session', he, -⟩ := hjobs
        rw [he]
        rfl
      dsimp only
      rw [ht, hstatus]
      split
      · exact ⟨rfl, hjobs⟩
      · exact ⟨rfl, hjobs⟩

/-- Handing over a query to the worker does the same to desks that differ in their generation. -/
theorem redated_handing (h : desk.Redated desk') (query : Query) :
    (desk'.submit query).1 = (desk.submit query).1 ∧
      (desk.submit query).2.Redated (desk'.submit query).2 := by
  obtain ⟨session', rfl, hs⟩ := h
  have hi : session'.index = desk.session.index ∧ session'.limit = desk.session.limit := by
    obtain ⟨newest, waiting, rfl, -⟩ := hs
    exact ⟨rfl, rfl⟩
  obtain ⟨hfst, hsnd⟩ := Session.redated_submit hs query
    (if desk.refusing then .error (.worker "executor is down") else .ok desk.jobs.length)
  unfold submit
  dsimp only
  rw [hfst, hi.1, hi.2]
  exact ⟨rfl, _, rfl, hsnd⟩

/-- **An event answers alike on redated desks and leaves redated desks.** -/
theorem redated_step : ∀ (event : Event) {desk desk' : Desk}, desk.Redated desk' →
    (desk'.step event).1 = (desk.step event).1 ∧
      (desk.step event).2.Redated (desk'.step event).2 := by
  intro event
  induction event with
  | text query =>
    rintro desk desk' ⟨session', rfl, hs⟩
    exact redated_change (Session.redated_textChanged hs query desk.clock)
  | tick now =>
    rintro desk desk' ⟨session', rfl, hs⟩
    exact redated_change (Session.redated_tick hs _)
  | flush =>
    rintro desk desk' ⟨session', rfl, hs⟩
    exact redated_change (Session.redated_flush hs)
  | poll =>
    rintro desk desk' ⟨session', rfl, hs⟩
    exact redated_change (Session.redated_poll hs desk.status)
  | navigate given =>
    rintro desk desk' ⟨session', rfl, hs⟩
    unfold step
    dsimp only
    rcases Session.redated_navigate hs given with ⟨fault, he, he'⟩ | ⟨cursor, he, he'⟩
    · rw [he, he']
      exact ⟨rfl, session', rfl, hs⟩
    · rw [he, he']
      obtain ⟨newest, waiting, rfl, hsame⟩ := hs
      exact ⟨rfl, _, rfl, newest, waiting, rfl, hsame⟩
  | rebuild entries =>
    rintro desk desk' ⟨session', rfl, hs⟩
    obtain ⟨hfst, hsnd⟩ := Session.redated_rebuild hs entries
    unfold step
    dsimp only
    rw [hfst]
    exact ⟨rfl, _, rfl, hsnd⟩
  | submit query => intro desk desk' h; exact redated_handing h query
  | execute => intro desk desk' h; exact redated_execute h
  | runJobs position => intro desk desk' h; exact redated_runJobs h position
  | wait => intro desk desk' h; exact redated_wait h
  | close =>
    rintro desk desk' ⟨session', rfl, hs⟩
    exact ⟨rfl, session'.close, rfl, hs.close⟩
  | closing event ih =>
    intro desk desk' h
    obtain ⟨hfst, session', he, hs⟩ := ih h
    refine ⟨hfst, session'.close, ?_, hs.close⟩
    show { (desk'.step event).2 with session := (desk'.step event).2.session.close } = _
    rw [he]
    rfl
  | clock | failJobs | failJob | refuse =>
    rintro desk desk' ⟨session', rfl, hs⟩
    exact ⟨rfl, session', rfl, hs⟩

/-! ## What is seen of a history -/

/-- The answers of a list of events, each with the desk as it looks after it. -/
def record (desk : Desk) : List Event → List (Except Fault Answer × Desk)
  | [] => []
  | event :: rest =>
    ((desk.step event).1, (desk.step event).2.seen) :: (desk.step event).2.record rest

/-- Redated desks cannot be told apart. -/
theorem record_eq : ∀ (events : List Event) {desk desk' : Desk}, desk.Redated desk' →
    desk'.record events = desk.record events := by
  intro events
  induction events with
  | nil => intro desk desk' _; rfl
  | cons event rest ih =>
    intro desk desk' h
    obtain ⟨hfst, hsnd⟩ := redated_step event h
    unfold record
    rw [hfst, hsnd.seen, ih hsnd]

/-! ## The refusal -/

/-- A poll tells whether the background search is wanted, once that search is done. -/
theorem poll_unchanged_iff {p : Pending} (hp : desk.session.pending = some p)
    (hdone : desk.status p.ticket ≠ .running) :
    (desk.step .poll).1 = .ok (.changed false) ↔ desk.session.isCurrent p = false := by
  show (desk.session.poll desk.status).1.map Answer.changed = .ok (.changed false) ↔ _
  rcases desk.session.poll_cases desk.status with ⟨hrun, -⟩ | ⟨p', hp', -, hcases⟩
  · exact absurd (hrun p hp) hdone
  · rw [hp] at hp'
    cases hp'
    rcases hcases with ⟨hc, he⟩ | ⟨hc, ⟨found, -, he⟩ | ⟨fault, -, he⟩⟩
    · rw [he, hc]
      exact ⟨fun _ => rfl, fun _ => rfl⟩
    · rw [he, hc]
      exact ⟨nofun, nofun⟩
    · rw [he, hc]
      exact ⟨nofun, nofun⟩

/-- Once all jobs have been run, the background search is done. -/
theorem Sound.status_runJobs {p : Pending} (h : desk.Sound limit)
    (hp : desk.session.pending = some p) :
    (desk.step (.runJobs none)).2.status p.ticket ≠ .running := by
  obtain ⟨job, hj, -⟩ := h.handed p hp
  have hrun : (desk.step (.runJobs none)).2.jobs[p.ticket]? = some job.run := by
    show (desk.jobs.map Job.run)[p.ticket]? = _
    rw [List.getElem?_map, hj]
    rfl
  have hdone := job.isDone_run
  unfold status
  rw [hrun]
  unfold Job.isDone at hdone
  intro hs
  rw [show job.run.status = .running from hs] at hdone
  cases hdone

/-- If the background search is not wanted, a refusal only changes numbers. -/
theorem Sound.redated_refused (h : desk.Sound limit)
    (hold : ∀ p, desk.session.pending = some p → desk.session.isCurrent p = false) :
    desk.Redated { desk with session := desk.session.refused } := by
  refine ⟨desk.session.refused, rfl, desk.session.generation + 1, desk.session.pending, rfl, ?_⟩
  cases hp : desk.session.pending with
  | none => trivial
  | some p =>
    obtain ⟨-, -, hedition, hle⟩ := h.settled.pending p hp
    have hne : p.generation ≠ desk.session.generation := by
      intro he
      have hc := hold p hp
      unfold Session.isCurrent at hc
      rw [he, hedition, beq_self_eq_true, beq_self_eq_true] at hc
      cases hc
    exact ⟨rfl, hle, by omega, by omega⟩

/-- If the background search is wanted, a refusal is noticed: once the search is done, a poll shows
or reports it without the refusal and drops it after one. -/
theorem Sound.outdated_of_record_eq {p : Pending} (h : desk.Sound limit)
    (hp : desk.session.pending = some p)
    (hsame : { desk with session := desk.session.refused }.record [.runJobs none, .poll]
      = desk.record [.runJobs none, .poll]) : desk.session.isCurrent p = false := by
  have hpoll : ({ (desk.step (.runJobs none)).2 with session := desk.session.refused }.step .poll).1
      = ((desk.step (.runJobs none)).2.step .poll).1 :=
    (Prod.mk.inj (List.cons.inj (List.cons.inj hsame).2).1).1
  have hdone := h.status_runJobs hp
  have hout : desk.session.refused.isCurrent p = false := by
    obtain ⟨-, -, -, hle⟩ := h.settled.pending p hp
    show (p.generation == desk.session.generation + 1 && _) = false
    rw [beq_false_of_ne (by omega), Bool.false_and]
  have hpend : (desk.step (.runJobs none)).2.session.pending = some p := hp
  have hpend' : { (desk.step (.runJobs none)).2 with
      session := desk.session.refused }.session.pending = some p := hp
  rw [(poll_unchanged_iff hpend' hdone).mpr hout] at hpoll
  exact (poll_unchanged_iff hpend hdone).mp hpoll.symm

/-- **When a refused query goes unnoticed.** A query that is not remembered and that the worker
refuses is a fault of the worker, and the desk looks as before. After every history of an opened
desk it also behaves as before, whatever happens later, exactly if it had no background search that
was still wanted. -/
theorem refusal_unnoticed_iff (hopen : desk.Opened limit) {events : List Event}
    (htyped : ∀ event ∈ events, event.IsTyped) {query : Query}
    (hquery : (desk.history events).session.memo.holds query = false) (fault : Fault) :
    let now := desk.history events
    let tried := now.session.submit query (.error fault)
    let after := { now with session := tried.2 }
    tried.1 = .error fault ∧ after.seen = now.seen ∧
      ((∀ later, after.record later = now.record later) ↔
        ∀ p, now.session.pending = some p → now.session.isCurrent p = false) := by
  intro now tried after
  have hnow : now.Sound limit := history_sound hopen htyped
  have htried : tried = (.error fault, now.session.refused) := by
    rcases now.session.submit_cases query (.error fault) with
      ⟨hh, -⟩ | ⟨-, ⟨other, ho, he⟩ | ⟨ticket, ho, -⟩⟩
    · rw [hquery] at hh; cases hh
    · cases ho; exact he
    · cases ho
  have hafter : after = { now with session := now.session.refused } := by
    show { now with session := tried.2 } = _
    rw [htried]
  refine ⟨by rw [htried], by rw [hafter]; rfl, ?_⟩
  rw [hafter]
  constructor
  · intro h p hp
    exact hnow.outdated_of_record_eq hp (h _)
  · intro hold later
    exact record_eq later (hnow.redated_refused hold)

/-- A query is handed to the worker. -/
def trialHanding : List Event := [.submit (Query.ofText "co")]

theorem trial_refusal_unnoticed_iff : ∃ desk, trial? = some desk ∧ desk.Opened 2 ∧
    (∀ event ∈ trialHanding, event.IsTyped) ∧
    let now := desk.history trialHanding
    now.session.memo.holds (Query.ofText "calc") = false ∧
    let tried := now.session.submit (Query.ofText "calc") (.error (.worker "executor is down"))
    let after := { now with session := tried.2 }
    tried.1 = .error (.worker "executor is down") ∧ after.seen = now.seen ∧
      ((∀ later, after.record later = now.record later) ↔
        ∀ p, now.session.pending = some p → now.session.isCurrent p = false) := by
  have hrun : trial?.map (fun desk =>
      (desk.history trialHanding).session.memo.holds (Query.ofText "calc")) = some false := by
    decide
  obtain ⟨desk, hdesk, hquery⟩ := Option.map_eq_some_iff.mp hrun
  have htyped : ∀ event ∈ trialHanding, event.IsTyped := by
    simp [trialHanding, Event.IsTyped]
  exact ⟨desk, hdesk, opened_trial hdesk, htyped, hquery,
    refusal_unnoticed_iff (opened_trial hdesk) htyped hquery (.worker "executor is down")⟩

/-- A refusal is noticed: the search that was handed to the worker before it is never shown. -/
theorem trial_refusal_noticed : ∃ desk, trial? = some desk ∧ desk.Opened 2 ∧
    let now := desk.history trialHanding
    let tried := now.session.submit (Query.ofText "calc") (.error (.worker "executor is down"))
    let after := { now with session := tried.2 }
    now.session.memo.holds (Query.ofText "calc") = false ∧
      (now.record [.runJobs none, .poll]).map (changesView ·.1) = [false, true] ∧
      (after.record [.runJobs none, .poll]).map (changesView ·.1) = [false, false] ∧
      ¬∀ later, after.record later = now.record later := by
  have hrun : trial?.map (fun desk =>
      let now := desk.history trialHanding
      let tried := now.session.submit (Query.ofText "calc") (.error (.worker "executor is down"))
      let after := { now with session := tried.2 }
      (now.session.memo.holds (Query.ofText "calc"),
        (now.record [.runJobs none, .poll]).map (changesView ·.1),
        (after.record [.runJobs none, .poll]).map (changesView ·.1)))
      = some (false, [false, true], [false, false]) := by
    decide
  obtain ⟨desk, hdesk, hall⟩ := Option.map_eq_some_iff.mp hrun
  obtain ⟨hquery, hnow, hafter⟩ : _ ∧ _ ∧ _ := by
    simpa only [Prod.mk.injEq] using hall
  refine ⟨desk, hdesk, opened_trial hdesk, hquery, hnow, hafter, fun hsame => ?_⟩
  rw [hsame, hnow] at hafter
  cases hafter

end Desk

end Launcher
