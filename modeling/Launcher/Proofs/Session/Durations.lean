import Launcher.Proofs.Session.Counters
import Launcher.Proofs.Session.Stats

/-!
# A session's tally is that of its statistics

A session carries the tally of its searches and no durations: how long a search takes is decided
outside of it, and nothing a session does depends on it. Here the durations are put back. Each event
of a history comes with the duration that was measured while it ran, and an event that counts a
search records it (`Desk.calls`). Statistics kept in this way have the tally of the session after
every history (`tally_calls`), whatever the durations are and also where one of them cannot be
added. With exact durations they are the summary of the durations of the searches that were scored.

> **`statistics_follow`** the tally of the statistics after every history of a desk, and on exact
> durations the whole of them
-/

namespace Launcher

/-! ## One search -/

namespace Session

/-- How a search at once is counted: as answered from memory or as scored, and not at all if it
fails. -/
def countedAs? (session : Session) (query : Query) : Option Bool :=
  if session.memo.holds query then some true
  else if (session.run query).1.isOk then some false
  else none

/-- A search at once changes the tally as it is counted. -/
theorem tally_run (session : Session) (query : Query) :
    (session.run query).2.tally
      = (session.countedAs? query).elim session.tally session.tally.record := by
  unfold countedAs?
  rw [run_eq]
  by_cases hholds : session.memo.holds query = true
  · rw [if_pos hholds, if_pos hholds]
    rfl
  · rw [if_neg hholds, if_neg hholds]
    cases session.index.find query.value session.limit <;> rfl

/-- The search that a session starts with is scored. -/
theorem tally_start {config : Config} {entries : List Entry} {session : Session}
    (hstart : start config entries = .ok session) : session.tally = Tally.zero.record false := by
  obtain ⟨number, index, cursor, debounce, -, -, -, -, flag, hrun⟩ := start_cases hstart
  have hblank : (blank number index cursor debounce).memo.holds (Query.ofText "") = false :=
    Memo.holds_of_slot_eq_none rfl _
  have hcounted : (blank number index cursor debounce).countedAs? (Query.ofText "")
      = some false := by
    unfold countedAs?
    rw [hblank, hrun]
    rfl
  have htally := tally_run (blank number index cursor debounce) (Query.ofText "")
  rw [hrun, hcounted] at htally
  exact htally

end Session

namespace Stats

variable {α : Type} [Duration α]

/-- A search is counted also where its duration cannot be added. -/
theorem tally_on_record (stats : Stats α) (duration : α) (cached : Bool) :
    (Call.on stats (.record duration cached)).tally = stats.tally.record cached := by
  show (stats.record duration cached).2.tally = _
  unfold record
  cases cached with
  | true => rfl
  | false => cases Duration.add stats.time duration <;> rfl

end Stats

/-! ## A history -/

namespace Desk

variable {α : Type} {desk : Desk}

/-- How an event is counted, if it counts a search. -/
def countedAs? (desk : Desk) (event : Event) : Option Bool :=
  match desk.asks? event with
  | some (session, query) => session.countedAs? query
  | none => if desk.polls event then some false else none

/-- What is recorded in a history, each event of which took the duration beside it. -/
def calls (desk : Desk) : List (Event × α) → List (Stats.Call α)
  | [] => []
  | (event, duration) :: rest =>
    ((desk.countedAs? event).map (.record duration)).toList ++ (desk.step event).2.calls rest

/-- An event changes the tally as it is counted. -/
theorem tally_step (desk : Desk) (event : Event) :
    (desk.step event).2.session.tally
      = (desk.countedAs? event).elim desk.session.tally desk.session.tally.record := by
  unfold countedAs?
  cases desk.step_counting event with
  | @asked session query hasks hpolls hbefore hafter =>
    have hafter : (desk.step event).2.session.tally = (session.run query).2.tally :=
      congrArg Counters.tally hafter
    have hbefore : session.tally = desk.session.tally := congrArg Counters.tally hbefore
    rw [hasks, hafter, ← hbefore]
    exact session.tally_run query
  | polled hasks hpolls hafter =>
    rw [hasks, hpolls]
    exact congrArg Counters.tally hafter
  | nothing hasks hpolls hafter =>
    rw [hasks, hpolls]
    exact congrArg Counters.tally hafter

/-- No call puts the statistics back. -/
theorem isReset_of_mem_calls {call : Stats.Call α} :
    ∀ {timed : List (Event × α)} {desk : Desk}, call ∈ desk.calls timed → call.isReset = false := by
  intro timed
  induction timed with
  | nil => exact nofun
  | cons first rest ih =>
    intro desk hmem
    rcases List.mem_append.mp hmem with hfirst | hrest
    · obtain ⟨cached, -, rfl⟩ := Option.map_eq_some_iff.mp (Option.mem_toList.mp hfirst)
      rfl
    · exact ih hrest

variable [Duration α]

/-- Statistics that agree with the session go on agreeing with it. -/
theorem tally_calls (timed : List (Event × α)) {desk : Desk} {stats : Stats α}
    (h : stats.tally = desk.session.tally) :
    ((desk.calls timed).foldl Stats.Call.on stats).tally
      = (desk.history (timed.map Prod.fst)).session.tally := by
  induction timed generalizing desk stats with
  | nil => exact h
  | cons first rest ih =>
    obtain ⟨event, duration⟩ := first
    unfold calls
    rw [List.foldl_append]
    refine ih ?_
    rw [tally_step]
    cases desk.countedAs? event with
    | none => exact h
    | some cached => exact (Stats.tally_on_record stats duration cached).trans (by rw [h]; rfl)

/-- **A session's tally is that of its statistics.** Let the first search and each event of a
history take any durations. The statistics of what is recorded then have the tally of the session
after that history. If the durations are exact, these statistics are the summary of the durations
that were recorded of scored searches, of which there are as many as the session has counted. -/
theorem statistics_follow {config : Config} {entries : List Entry} {session : Session}
    (hstart : Session.start config entries = .ok session) (handler : Handler) :
    let desk := create session handler
    (∀ (first : α) (timed : List (Event × α)),
      (Stats.history (.record first false :: desk.calls timed)).tally
        = (desk.history (timed.map Prod.fst)).session.tally) ∧
    ∀ (first : ℚ) (timed : List (Event × ℚ)),
      let now := (desk.history (timed.map Prod.fst)).session
      let durations := first :: (desk.calls timed).filterMap (·.scored?)
      Stats.history (.record first false :: desk.calls timed)
        = Stats.summary durations now.tally.cached ∧
      durations.length = now.tally.scored := by
  intro desk
  have hfollow : ∀ {β : Type} [Duration β] (first : β) (timed : List (Event × β)),
      (Stats.history (.record first false :: desk.calls timed)).tally
        = (desk.history (timed.map Prod.fst)).session.tally := by
    intro β _ first timed
    have hfirst : (Stats.Call.on Stats.empty (.record first false)).tally = desk.session.tally :=
      (Stats.tally_on_record _ _ _).trans (Session.tally_start hstart).symm
    exact tally_calls timed hfirst
  refine ⟨hfollow, fun first timed => ?_⟩
  intro now durations
  have hall : Stats.sinceReset (.record first false :: desk.calls timed)
      = .record first false :: desk.calls timed := by
    refine List.rtakeWhile_eq_self_iff.mpr fun call hmem => ?_
    rcases List.mem_cons.mp hmem with rfl | hrest
    · rfl
    · rw [isReset_of_mem_calls hrest]
      rfl
  have hscored : Stats.scored (.record first false :: desk.calls timed) = durations := by
    unfold Stats.scored
    rw [hall]
    rfl
  have htally := hfollow first timed
  have heq := Stats.history_eq (.record first false :: desk.calls timed)
  rw [hscored] at heq
  rw [heq] at htally ⊢
  exact ⟨congrArg (Stats.summary durations) (congrArg Tally.cached htally),
    congrArg Tally.scored htally⟩

end Desk

end Launcher
