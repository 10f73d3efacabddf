import Launcher.Proofs.Session.Holding
import Launcher.Proofs.Session.Newest
import Launcher.Proofs.Session.Order

/-!
# The text typed last is searched once, when it is due

A text that is held is due at the time at which it was typed and the interval. Typing sets that time
and the text together, and a tick or a flush that searches the text forgets both. So what waits can
be told from the events alone (`Desk.Latest`): it is the text typed last, if no tick and no flush
has searched a text since then. `waits_step` is the case of one event, `waits_history` that of a
history.

Nothing is assumed of the times: the clock may stand still or run backwards, and a tick may come
with any time of its own. Times are added and compared as doubles are.

> **`runs_exactly`**: after every history, a tick or a flush searches a text exactly if it is the
> one typed last, has not been searched since, and is due; a flush does not wait for that. A tick or
> a flush that searches nothing changes nothing that is shown, and neither does typing. No text is
> searched twice.
-/

namespace Launcher

/-! ## What is held, and for how long -/

/-- A time has reached a deadline. -/
def Value.Reaches (time : Value) (deadline : Float) : Prop :=
  ∃ number, time.asNumber = .ok number ∧
    ((Number.real deadline).less number = true ∨ (Number.real deadline).equals number = true)

theorem Number.toFloat?_of_asDouble {number : Number} {x : Float}
    (h : number.toValue.asDouble = .ok x) : number.toFloat? = some x := by
  have hnumber : number.toValue.asNumber = .ok number := by cases number <;> rfl
  unfold Value.asDouble at h
  rw [hnumber] at h
  simp only [bind, Except.bind] at h
  split at h
  · next y hy => cases h; exact hy
  · cases h

/-- What holds queries for a number of milliseconds waits for that time. -/
theorem Debounce.interval_of_create {milliseconds : Value} {number : Number} {debounce : Debounce}
    (hnumber : milliseconds.asNumber = .ok number)
    (hcreate : Debounce.create milliseconds = .ok debounce) :
    ∃ x, number.toFloat? = some x ∧ debounce.interval = x / 1000.0 := by
  unfold Debounce.create at hcreate
  obtain ⟨given, hgiven, hcreate⟩ := exists_of_bind_eq_ok hcreate
  obtain ⟨x, hx, hcreate⟩ := exists_of_bind_eq_ok hcreate
  cases hcreate
  -- the check for a negative number gives the number back
  have hsame : given = number := by
    unfold Value.nonNegative at hgiven
    rw [hnumber] at hgiven
    change (if number.isNegative then _ else _) = _ at hgiven
    split at hgiven
    · cases hgiven
    · cases hgiven
      rfl
  rw [hsame] at hx
  exact ⟨x, Number.toFloat?_of_asDouble hx, rfl⟩

namespace Session

variable {session : Session} {query : Query} {held : Held} {interval : Float}

/-- Typing has to rest for an interval before it is searched. -/
def Delays (session : Session) (interval : Float) : Prop :=
  session.debounce.map Debounce.interval = some interval

theorem Delays.released (h : session.Delays interval) : session.released.Delays interval := by
  unfold Delays Session.released
  rw [Option.map_map]
  exact h

/-- A session that is started with a delay above zero holds texts for that many milliseconds. -/
theorem delays_start {config : Config} {entries : List Entry} {number : Number}
    (hstart : start config entries = .ok session)
    (hnumber : config.debounceMs.asNumber = .ok number)
    (hpos : (Number.whole 0).less number = true) :
    ∃ milliseconds, number.toFloat? = some milliseconds ∧
      session.Delays (milliseconds / 1000.0) := by
  obtain ⟨limit, index, cursor, debounce, found, -, -, -, hopen, -, rfl⟩ :=
    start_searched hstart
  unfold openDebounce at hopen
  rw [hnumber] at hopen
  change (if (Number.whole 0).less number then _ else _) = _ at hopen
  rw [if_pos hpos] at hopen
  cases hcreate : Debounce.create config.debounceMs with
  | error fault =>
    rw [hcreate] at hopen
    cases hopen
  | ok created =>
    rw [hcreate] at hopen
    cases hopen
    obtain ⟨x, hx, hinterval⟩ := Debounce.interval_of_create hnumber hcreate
    exact ⟨x, hx, congrArg some hinterval⟩

/-- A search at once is always counted, so it never leaves a session as it was. -/
theorem run_ne_released (session : Session) (query : Query) :
    (session.released.run query).2 ≠ session := by
  intro hsame
  rw [run_eq] at hsame
  split at hsame
  · have hhits : session.memo.hits + 1 = session.memo.hits :=
      congrArg (fun after => after.memo.hits) hsame
    omega
  · have hmisses : session.memo.misses + 1 = session.memo.misses := by
      split at hsame
      · exact congrArg (fun after => after.memo.misses) hsame
      · exact congrArg (fun after => after.memo.misses) hsame
    omega

/-- A tick searches the text that waits if its deadline has been reached, and else changes
nothing. -/
theorem tick_of_waiting (hw : session.waiting? = some held) (now : Value) :
    (now.Reaches held.deadline ∧ session.tick now = session.released.run held.query) ∨
      ¬now.Reaches held.deadline ∧ (session.tick now).2 = session := by
  obtain ⟨debounce, hd, hwaits⟩ := Option.bind_eq_some_iff.mp hw
  unfold tick Value.Reaches
  simp only [hd, Debounce.isDue, hwaits]
  cases hn : now.asNumber with
  | error fault => exact Or.inr ⟨nofun, rfl⟩
  | ok number =>
    by_cases hdue : (Number.real held.deadline).less number = true ∨
        (Number.real held.deadline).equals number = true
    · refine Or.inl ⟨⟨number, rfl, hdue⟩, ?_⟩
      have hflush : session.flush = session.released.run held.query := by rw [flush_eq, hw]
      rw [← hflush]
      simp only [bind, Except.bind, Bool.or_eq_true, hdue, if_true]
    · refine Or.inr ⟨?_, ?_⟩
      · rintro ⟨other, hother, hreached⟩
        cases hother
        exact hdue hreached
      · simp only [bind, Except.bind, Bool.or_eq_true, hdue, if_false]

/-- Where nothing waits a tick changes nothing. -/
theorem tick_of_not_waiting (hw : session.waiting? = none) (now : Value) :
    (session.tick now).2 = session := by
  rcases session.tick_cases now with ⟨fault, he⟩ | he | ⟨hsome, -⟩
  · rw [he]
  · rw [he]
  · rw [hw] at hsome
    cases hsome

/-- Typing holds the text from the time of the clock on; without such a time it changes nothing. -/
theorem textChanged_of_delays (h : session.Delays interval) (query : Query) (now : Value) :
    ((∃ fault, now.asDouble = .error fault) ∧ (session.textChanged query now).2 = session) ∨
      ∃ time, now.asDouble = .ok time ∧ (session.textChanged query now).2
        = { session with debounce := some ⟨interval, some ⟨time + interval, query⟩⟩ } := by
  obtain ⟨debounce, hd, rfl⟩ := Option.map_eq_some_iff.mp h
  unfold textChanged Debounce.hold
  simp only [hd]
  cases hnow : now.asDouble with
  | error fault => exact Or.inl ⟨⟨fault, rfl⟩, rfl⟩
  | ok time => exact Or.inr ⟨time, rfl, rfl⟩

end Session

namespace Desk

/-! ## What the events say -/

/-- The event searches a query that was held, which it is no longer then. -/
def Runs (desk : Desk) (query : Query) : Event → Prop
  | .tick now =>
    (∃ held, desk.session.waiting? = some held ∧ held.query = query) ∧
      desk.step (.tick now) = desk.afterChange (desk.session.released.run query)
  | .flush =>
    (∃ held, desk.session.waiting? = some held ∧ held.query = query) ∧
      desk.step .flush = desk.afterChange (desk.session.released.run query)
  | .closing event => desk.Runs query event
  | _ => False

/-- The event is the typing of a query at a time. -/
def Types (desk : Desk) (query : Query) (time : Float) : Event → Prop
  | .text typed => typed = query ∧ desk.clock.asDouble = .ok time
  | .closing event => desk.Types query time event
  | _ => False

/-- The event searches what is due at a deadline. -/
def IsDue (desk : Desk) (deadline : Float) : Event → Prop
  | .tick now => (if now.isNull then desk.clock else now).Reaches deadline
  | .flush => True
  | .closing event => desk.IsDue deadline event
  | _ => False

/-- The event neither types anything nor searches anything that was held. -/
structure Rests (desk : Desk) (event : Event) : Prop where
  typing : ∀ query time, ¬desk.Types query time event
  running : ∀ query, ¬desk.Runs query event

/-- The query is the one typed last in the events, at a time, and nothing that was held has been
searched since then. Null is no query. -/
def Latest (desk : Desk) (events : List Event) (query : Query) (time : Float) : Prop :=
  query.isNull = false ∧ ∃ before typing between, events = before ++ typing :: between ∧
    (desk.history before).Types query time typing ∧
    ∀ calm event rest, between = calm ++ event :: rest →
      (((desk.history before).step typing).2.history calm).Rests event

variable {desk : Desk} {event : Event} {interval : Float} {query : Query} {held : Held}

/-! ## What an event searches -/

/-- A held query is searched exactly if it is due, by whichever event. -/
theorem runs_iff : ∀ (event : Event), desk.Runs query event ↔
    ∃ held, desk.session.waiting? = some held ∧ held.query = query ∧
      desk.IsDue held.deadline event := by
  intro event
  induction event with
  | tick now =>
    constructor
    · rintro ⟨⟨held, hw, rfl⟩, hstep⟩
      refine ⟨held, hw, rfl, ?_⟩
      rcases desk.session.tick_of_waiting hw (if now.isNull then desk.clock else now) with
        ⟨hdue, -⟩ | ⟨-, hsame⟩
      · exact hdue
      · -- a tick that is not due would have left the session alone
        have hrun := (congrArg (fun outcome => outcome.2.session) hstep).symm.trans hsame
        exact absurd hrun (desk.session.run_ne_released held.query)
    · rintro ⟨held, hw, rfl, hdue⟩
      refine ⟨⟨held, hw, rfl⟩, ?_⟩
      rcases desk.session.tick_of_waiting hw (if now.isNull then desk.clock else now) with
        ⟨-, he⟩ | ⟨hnot, -⟩
      · exact congrArg desk.afterChange he
      · exact absurd hdue hnot
  | flush =>
    constructor
    · rintro ⟨⟨held, hw, hq⟩, -⟩
      exact ⟨held, hw, hq, trivial⟩
    · rintro ⟨held, hw, rfl, -⟩
      refine ⟨⟨held, hw, rfl⟩, congrArg desk.afterChange ?_⟩
      rw [Session.flush_eq, hw]
  | closing event ih => exact ih
  | text | navigate | rebuild | submit | poll | close | clock | execute | runJobs | failJobs
    | failJob | refuse | wait =>
    exact ⟨False.elim, fun ⟨_, _, _, hdue⟩ => hdue⟩

/-- After a search of what was held nothing waits, and typing has to rest as before. -/
theorem after_runs : ∀ {event : Event}, desk.Runs query event →
    (desk.step event).2.session.waiting? = none ∧
      (desk.session.Delays interval → (desk.step event).2.session.Delays interval) := by
  intro event
  have hrun : (desk.session.released.run query).2.waiting? = none ∧
      (desk.session.Delays interval →
        (desk.session.released.run query).2.Delays interval) := by
    refine ⟨?_, fun hdelays => ?_⟩
    · rw [Session.waiting?_run, Session.waiting?_released]
    · unfold Session.Delays
      rw [Session.debounce_run]
      exact hdelays.released
  induction event with
  | tick now =>
    rintro ⟨-, hstep⟩
    rw [hstep]
    exact hrun
  | flush =>
    rintro ⟨-, hstep⟩
    rw [hstep]
    exact hrun
  | closing event ih => exact fun hruns => ih hruns
  | text | navigate | rebuild | submit | poll | close | clock | execute | runJobs | failJobs
    | failJob | refuse | wait => exact False.elim

/-- A tick or a flush that searches nothing leaves everything as it was, up to a closing. -/
theorem release_idle : ∀ {event : Event}, event.IsRelease → (∀ query, ¬desk.Runs query event) →
    (desk.step event).2.session = desk.session ∨
      (desk.step event).2.session = desk.session.close := by
  intro event
  induction event with
  | tick now =>
    intro _ hidle
    refine Or.inl ?_
    show (desk.session.tick (if now.isNull then desk.clock else now)).2 = _
    cases hw : desk.session.waiting? with
    | none => exact Session.tick_of_not_waiting hw _
    | some held =>
      rcases desk.session.tick_of_waiting hw (if now.isNull then desk.clock else now) with
        ⟨hdue, -⟩ | ⟨-, hsame⟩
      · exact absurd ((runs_iff (.tick now)).mpr ⟨held, hw, rfl, hdue⟩) (hidle held.query)
      · exact hsame
  | flush =>
    intro _ hidle
    refine Or.inl ?_
    cases hw : desk.session.waiting? with
    | none =>
      show desk.session.flush.2 = _
      rw [Session.flush_eq, hw]
    | some held =>
      exact absurd ((runs_iff .flush).mpr ⟨held, hw, rfl, trivial⟩) (hidle held.query)
  | closing event ih =>
    intro hrelease hidle
    refine Or.inr ?_
    show (desk.step event).2.session.close = _
    rcases ih hrelease hidle with hsame | hclosed
    · rw [hsame]
    · rw [hclosed]
      rfl
  | text | navigate | rebuild | submit | poll | close | clock | execute | runJobs | failJobs
    | failJob | refuse | wait => exact False.elim

/-! ## What waits after one event -/

/-- What an event does to the text that waits: it stays if the event neither types nor searches
anything, and what is typed takes its place. -/
structure Waits (desk : Desk) (interval : Float) (event : Event) : Prop where
  delays : (desk.step event).2.session.Delays interval
  held_iff : ∀ held, (desk.step event).2.session.waiting? = some held ↔
    (desk.session.waiting? = some held ∧ desk.Rests event) ∨
      ∃ query time, desk.Types query time event ∧ query.isNull = false ∧
        held = ⟨time + interval, query⟩

/-- An event that leaves what is held alone rests. -/
theorem waits_of_rests (hdelays : desk.session.Delays interval) (hrests : desk.Rests event)
    (hd : (desk.step event).2.session.debounce = desk.session.debounce) :
    desk.Waits interval event := by
  have hw : (desk.step event).2.session.waiting? = desk.session.waiting? := by
    unfold Session.waiting?
    rw [hd]
  refine ⟨?_, fun held => ?_⟩
  · unfold Session.Delays
    rw [hd]
    exact hdelays
  · rw [hw]
    constructor
    · exact fun h => Or.inl ⟨h, hrests⟩
    · rintro (⟨h, -⟩ | ⟨query, time, htypes, -⟩)
      · exact h
      · exact absurd htypes (hrests.typing query time)

/-- A tick or a flush either searches what waits or leaves it. -/
theorem waits_of_release (hdelays : desk.session.Delays interval) (hrelease : event.IsRelease)
    (htyping : ∀ query time, ¬desk.Types query time event) : desk.Waits interval event := by
  by_cases hruns : ∃ query, desk.Runs query event
  · obtain ⟨query, hruns⟩ := hruns
    obtain ⟨hnone, hafter⟩ := after_runs hruns
    refine ⟨hafter hdelays, fun held => ?_⟩
    rw [hnone]
    constructor
    · nofun
    · rintro (⟨-, hrests⟩ | ⟨typed, time, htypes, -⟩)
      · exact absurd hruns (hrests.running query)
      · exact absurd htypes (htyping typed time)
  · refine waits_of_rests hdelays ⟨htyping, not_exists.mp hruns⟩ ?_
    rcases release_idle hrelease (not_exists.mp hruns) with hsame | hclosed
    · rw [hsame]
    · rw [hclosed]
      rfl

/-- A text that is typed waits from then on. -/
theorem waits_text (hdelays : desk.session.Delays interval) (typed : Query) :
    desk.Waits interval (.text typed) := by
  rcases Session.textChanged_of_delays hdelays typed desk.clock with
    ⟨⟨fault, hclock⟩, hsame⟩ | ⟨time, hclock, he⟩
  · -- the clock shows no time, so nothing has been typed
    refine waits_of_rests hdelays ⟨?_, fun _ => id⟩ (congrArg Session.debounce hsame)
    rintro query time ⟨-, htime⟩
    rw [hclock] at htime
    cases htime
  · have hsession : (desk.step (.text typed)).2.session
        = { desk.session with debounce := some ⟨interval, some ⟨time + interval, typed⟩⟩ } := he
    refine ⟨by rw [hsession]; rfl, fun held => ?_⟩
    have hwaits : (desk.step (.text typed)).2.session.waiting?
        = (some (⟨time + interval, typed⟩ : Held)).filter fun held => !held.query.isNull := by
      rw [hsession]
      rfl
    rw [hwaits, Option.filter_eq_some_iff, Option.some.injEq, Bool.not_eq_true']
    constructor
    · rintro ⟨rfl, hnull⟩
      exact Or.inr ⟨typed, time, ⟨rfl, hclock⟩, hnull, rfl⟩
    · rintro (⟨-, hrests⟩ | ⟨query, time', ⟨rfl, htime⟩, hnull, rfl⟩)
      · exact absurd ⟨rfl, hclock⟩ (hrests.typing typed time)
      · rw [hclock] at htime
        cases htime
        exact ⟨rfl, hnull⟩

/-- **What waits after one event.** -/
theorem waits_step : ∀ (event : Event) {desk : Desk}, desk.session.Delays interval →
    desk.Waits interval event := by
  intro event
  induction event with
  | text query => exact fun hdelays => waits_text hdelays query
  | tick | flush => exact fun hdelays => waits_of_release hdelays trivial fun _ _ => id
  | closing event ih =>
    intro desk hdelays
    obtain ⟨hafter, hheld⟩ := ih hdelays
    refine ⟨hafter, fun held => (hheld held).trans ?_⟩
    exact or_congr_left (and_congr_right fun _ => ⟨fun h => ⟨h.1, h.2⟩, fun h => ⟨h.1, h.2⟩⟩)
  | navigate given =>
    intro desk hdelays
    refine waits_of_rests hdelays ⟨fun _ _ => id, fun _ => id⟩ ?_
    rcases desk.navigate_cases given with ⟨fault, he⟩ | ⟨cursor, he⟩
    · rw [he]
    · rw [he]
  | rebuild entries =>
    exact fun hdelays => waits_of_rests hdelays ⟨fun _ _ => id, fun _ => id⟩
      (Session.debounce_rebuild _ entries)
  | submit query =>
    intro desk hdelays
    refine waits_of_rests hdelays ⟨fun _ _ => id, fun _ => id⟩ ?_
    rcases desk.submit_cases query with ⟨-, he⟩ | ⟨-, ⟨-, he⟩ | ⟨-, he⟩⟩
    · rw [he]; rfl
    · rw [he]; rfl
    · rw [he]; rfl
  | poll =>
    exact fun hdelays => waits_of_rests hdelays ⟨fun _ _ => id, fun _ => id⟩
      (Session.debounce_poll _ _)
  | close => exact fun hdelays => waits_of_rests hdelays ⟨fun _ _ => id, fun _ => id⟩ rfl
  | clock | execute | runJobs | failJobs | failJob | refuse | wait =>
    intro desk hdelays
    refine waits_of_rests hdelays ⟨fun _ _ => id, fun _ => id⟩ ?_
    rw [(step_aside (by trivial) desk).1]

/-! ## What waits after a history -/

/-- What is typed last in the events is what is typed first and then rests, or what is typed last in
the events after the first. -/
theorem latest_cons {rest : List Event} {time : Float} :
    desk.Latest (event :: rest) query time ↔
      (query.isNull = false ∧ desk.Types query time event ∧
        ∀ calm next after, rest = calm ++ next :: after →
          ((desk.step event).2.history calm).Rests next) ∨
      (desk.step event).2.Latest rest query time := by
  constructor
  · rintro ⟨hnull, before, typing, between, he, htypes, hcalm⟩
    cases before with
    | nil =>
      cases he
      exact Or.inl ⟨hnull, htypes, hcalm⟩
    | cons first before =>
      cases he
      exact Or.inr ⟨hnull, before, typing, between, rfl, htypes, hcalm⟩
  · rintro (⟨hnull, htypes, hcalm⟩ | ⟨hnull, before, typing, between, rfl, htypes, hcalm⟩)
    · exact ⟨hnull, [], event, rest, rfl, htypes, hcalm⟩
    · exact ⟨hnull, event :: before, typing, between, rfl, htypes, hcalm⟩

theorem not_latest_nil {time : Float} : ¬desk.Latest [] query time := by
  rintro ⟨-, before, typing, between, he, -⟩
  cases before <;> cases he

/-- **What waits after a history**: what waited before and has rested all the time, or the text
typed last in it. -/
theorem waits_history : ∀ (events : List Event) {desk : Desk}, desk.session.Delays interval →
    ((desk.history events).session.waiting? = some held ↔
      (desk.session.waiting? = some held ∧
        ∀ calm event rest, events = calm ++ event :: rest → (desk.history calm).Rests event) ∨
      ∃ query time, desk.Latest events query time ∧ held = ⟨time + interval, query⟩) := by
  intro events
  induction events with
  | nil =>
    intro desk _
    constructor
    · exact fun h => Or.inl ⟨h, forall_split_nil⟩
    · rintro (⟨h, -⟩ | ⟨query, time, hlatest, -⟩)
      · exact h
      · exact absurd hlatest not_latest_nil
  | cons event rest ih =>
    intro desk hdelays
    -- what waits after the first event has to rest in all others, or is typed over by one of them
    obtain ⟨hafter, hheld⟩ := waits_step event hdelays
    rw [history_cons, ih hafter, hheld held, forall_split_cons]
    constructor
    · rintro (⟨⟨hw, hrests⟩ | ⟨query, time, htypes, hnull, rfl⟩, hcalm⟩ |
        ⟨query, time, hlatest, rfl⟩)
      · exact Or.inl ⟨hw, hrests, hcalm⟩
      · exact Or.inr ⟨query, time, latest_cons.mpr (Or.inl ⟨hnull, htypes, hcalm⟩), rfl⟩
      · exact Or.inr ⟨query, time, latest_cons.mpr (Or.inr hlatest), rfl⟩
    · rintro (⟨hw, hrests, hcalm⟩ | ⟨query, time, hlatest, rfl⟩)
      · exact Or.inl ⟨Or.inl ⟨hw, hrests⟩, hcalm⟩
      · rcases latest_cons.mp hlatest with ⟨hnull, htypes, hcalm⟩ | hlatest
        · exact Or.inl ⟨Or.inr ⟨query, time, htypes, hnull, rfl⟩, hcalm⟩
        · exact Or.inr ⟨query, time, hlatest, rfl⟩

/-- Every history keeps the interval. -/
theorem delays_history (events : List Event) (h : desk.session.Delays interval) :
    (desk.history events).session.Delays interval := by
  induction events generalizing desk with
  | nil => exact h
  | cons event rest ih => exact ih (waits_step event h).delays

/-- From a desk where nothing waits, what is searched after a history is what was typed last. -/
theorem runs_history_iff (hdelays : desk.session.Delays interval)
    (hnone : desk.session.waiting? = none) (events : List Event) (event : Event) :
    (desk.history events).Runs query event ↔
      ∃ time, desk.Latest events query time ∧
        (desk.history events).IsDue (time + interval) event := by
  have hwaits : ∀ held, (desk.history events).session.waiting? = some held ↔
      ∃ query time, desk.Latest events query time ∧ held = ⟨time + interval, query⟩ := by
    intro held
    rw [waits_history events hdelays, hnone]
    exact or_iff_right nofun
  rw [runs_iff]
  constructor
  · rintro ⟨held, hw, rfl, hdue⟩
    obtain ⟨query, time, hlatest, rfl⟩ := (hwaits held).mp hw
    exact ⟨time, hlatest, hdue⟩
  · rintro ⟨time, hlatest, hdue⟩
    exact ⟨⟨time + interval, query⟩, (hwaits _).mpr ⟨query, time, hlatest, rfl⟩, rfl, hdue⟩

/-- What is searched after something else has been searched was typed in between. -/
theorem latest_of_runs {first second : Event} {earlier : Query} (between : List Event)
    (hdelays : desk.session.Delays interval) (hfirst : desk.Runs earlier first)
    (hsecond : ((desk.step first).2.history between).Runs query second) :
    ∃ time, (desk.step first).2.Latest between query time := by
  obtain ⟨hnone, hafter⟩ := after_runs hfirst
  obtain ⟨time, hlatest, -⟩ := (runs_history_iff (hafter hdelays) hnone between second).mp hsecond
  exact ⟨time, hlatest⟩

/-! ## A session that delays -/

/-- A text that is held changes nothing shown. -/
theorem sameView_text (hdelays : desk.session.Delays interval) (typed : Query) :
    desk.session.SameView (desk.step (.text typed)).2.session := by
  have hafter : (desk.step (.text typed)).2.session
      = (desk.session.textChanged typed desk.clock).2 := rfl
  rcases Session.textChanged_of_delays hdelays typed desk.clock with ⟨-, he⟩ | ⟨time, -, he⟩
  · rw [hafter, he]; exact ⟨rfl, rfl, rfl, rfl, rfl, rfl⟩
  · rw [hafter, he]; exact ⟨rfl, rfl, rfl, rfl, rfl, rfl⟩

/-- An event that runs nothing shows nothing new. -/
theorem sameView_of_idle (hrelease : event.IsRelease) (hidle : ∀ query, ¬desk.Runs query event) :
    desk.session.SameView (desk.step event).2.session := by
  rcases release_idle hrelease hidle with he | he
  · rw [he]; exact ⟨rfl, rfl, rfl, rfl, rfl, rfl⟩
  · rw [he]; exact ⟨rfl, rfl, rfl, rfl, rfl, rfl⟩

/-- **The text typed last is searched once, when it is due.** A session is started with a delay
above zero. Then after every history an event searches a held text exactly if that text is the one
typed last, nothing held has been searched since, and the event is a flush, or a tick at the time at
which the text was typed and the delay or later. A tick or a flush that searches nothing leaves the
view as it is, and so does typing. When two events of the history search what is held, what the
later one searches has been typed after the earlier one. -/
theorem runs_exactly {config : Config} {entries : List Entry} {session : Session} {number : Number}
    (hstart : Session.start config entries = .ok session)
    (hnumber : config.debounceMs.asNumber = .ok number)
    (hpos : (Number.whole 0).less number = true) (handler : Handler) :
    let desk := Desk.create session handler
    ∃ milliseconds, number.toFloat? = some milliseconds ∧ ∀ events : List Event,
      let now := desk.history events
      (∀ event query, now.Runs query event ↔ ∃ time, desk.Latest events query time ∧
        now.IsDue (time + milliseconds / 1000.0) event) ∧
      (∀ event, event.IsRelease → (∀ query, ¬now.Runs query event) →
        now.session.SameView (now.step event).2.session) ∧
      (∀ typed, now.session.SameView (now.step (.text typed)).2.session) ∧
      ∀ before first between, events = before ++ first :: between →
        ∀ earlier, (desk.history before).Runs earlier first →
          ∀ second query, now.Runs query second →
            ∃ time, ((desk.history before).step first).2.Latest between query time := by
  intro desk
  obtain ⟨milliseconds, hfloat, hdelays⟩ := Session.delays_start hstart hnumber hpos
  refine ⟨milliseconds, hfloat, fun events => ?_⟩
  intro now
  have hnone : desk.session.waiting? = none := Session.waiting?_start hstart
  refine ⟨fun event query => runs_history_iff hdelays hnone events event,
    fun event => sameView_of_idle, sameView_text (delays_history events hdelays), ?_⟩
  rintro before first between rfl earlier hfirst second query hsecond
  have hnow : now = ((desk.history before).step first).2.history between := history_append ..
  rw [hnow] at hsecond
  exact latest_of_runs between (delays_history before hdelays) hfirst hsecond

/-- A text is typed over, and a query is handed over while the second one is held. -/
def trialBurst : List Event :=
  [.text (Query.ofText "co"), .clock (.float 0.05), .text (Query.ofText "calc"),
    .submit (Query.ofText "goo")]

/-- The second text is searched, by a flush at once and by a tick when it is due. -/
theorem trial_runs_exactly : ∃ session, Session.start trialConfig trialEntries = .ok session ∧
    trialConfig.debounceMs.asNumber = .ok (.whole 100) ∧
    (Number.whole 0).less (.whole 100) = true ∧
    let now := (create session .absent).history trialBurst
    now.Runs (Query.ofText "calc") .flush ∧
      now.Runs (Query.ofText "calc") (.tick (.float 0.2)) := by
  obtain ⟨desk, hdesk⟩ := exists_trial
  obtain ⟨session, hstart, rfl⟩ := start_of_trial hdesk
  have hnumber : trialConfig.debounceMs.asNumber = .ok (.whole 100) := rfl
  have hpos : (Number.whole 0).less (.whole 100) = true := by decide
  obtain ⟨milliseconds, hfloat, hruns⟩ := runs_exactly hstart hnumber hpos .absent
  obtain rfl : (100.0 : Float) = milliseconds := Option.some.inj hfloat
  have hlatest : (create session .absent).Latest trialBurst (Query.ofText "calc") 0.05 := by
    refine ⟨rfl, [.text (Query.ofText "co"), .clock (.float 0.05)], _, _, rfl, ⟨rfl, rfl⟩, ?_⟩
    exact forall_split_cons.mpr ⟨⟨fun _ _ => id, fun _ => id⟩, forall_split_nil⟩
  have hdue : (Value.float 0.2).Reaches (0.05 + 100.0 / 1000.0) :=
    ⟨.real 0.2, rfl, Or.inl (by decide)⟩
  have hsearches := (hruns trialBurst).1
  exact ⟨session, hstart, hnumber, hpos, (hsearches .flush _).mpr ⟨0.05, hlatest, trivial⟩,
    (hsearches (.tick (.float 0.2)) _).mpr ⟨0.05, hlatest, hdue⟩⟩

end Desk

end Launcher
