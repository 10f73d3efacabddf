import Launcher.Proofs.Session.Settled
import Launcher.Session.Desk

/-!
# The course of a desk

A history is a list of events, carried out one after the other. Here is what every statement about
histories starts from:

* `Desk.Opened`: a desk at its start, with a session that was started on a positive whole limit and
  numeric weights;
* `Event.IsTyped`: the event asks for nothing but texts;
* `trial?`: a small desk, on which statements about histories can be tried out;
* `history_append`: histories in parts;
* `step_aside`: the events that leave the session alone, and what they do to the jobs with the
  worker. A job goes from running to done and then stays as it is, and it never changes what it
  searches (`Job.Later`).
-/

namespace Launcher

/-- Every query that the event asks for is a text. -/
def Event.IsTyped : Event → Prop
  | .text query => query.IsText
  | .submit query => query.IsText
  | .closing event => event.IsTyped
  | _ => True

/-- The event does not concern the session. -/
def Event.IsAside : Event → Prop
  | .clock _ | .execute | .runJobs _ | .failJobs _ | .failJob _ _ | .refuse _ | .wait => True
  | _ => False

/-- The answer says that what is shown has changed. -/
def changesView : Except Fault Answer → Bool
  | .ok (.changed true) => true
  | _ => false

/-- A desk that has just been opened. -/
inductive Desk.Opened (limit : Nat) : Desk → Prop where
  | intro {config : Config} {entries : List Entry} {session : Session} (handler : Handler)
      (hlimit : config.limit = .int limit) (hweights : config.weights.Numeric)
      (hstart : Session.start config entries = .ok session) :
      Opened limit (Desk.create session handler)

/-! ## A desk to try things on -/

/-- Two rows are shown, and typing rests for a tenth of a second before it is searched. -/
def trialConfig : Config := { limit := .int 2, debounceMs := .int 100 }

def trialEntries : List Entry :=
  [{ id := "calc", title := "Calculator" }, { id := "code", title := "Code Editor" },
    { id := "goog", title := "Google Chrome" }]

/-- The desk with that catalog, if a session starts on it. -/
def Desk.trial? : Option Desk :=
  (Session.start trialConfig trialEntries).toOption.map (Desk.create · .absent)

theorem Desk.start_of_trial {desk : Desk} (h : trial? = some desk) :
    ∃ session, Session.start trialConfig trialEntries = .ok session ∧
      desk = Desk.create session .absent := by
  obtain ⟨session, hs, rfl⟩ := Option.map_eq_some_iff.mp h
  cases hstart : Session.start trialConfig trialEntries with
  | error fault => rw [hstart] at hs; cases hs
  | ok started => rw [hstart] at hs; cases hs; exact ⟨session, rfl, rfl⟩

/-- The desk of the trial is one that has just been opened, with a limit of two. -/
theorem Desk.opened_trial {desk : Desk} (h : trial? = some desk) : desk.Opened 2 := by
  obtain ⟨session, hstart, rfl⟩ := start_of_trial h
  exact .intro .absent rfl ⟨Weights.standard, rfl⟩ hstart

/-- The desk of the trial can be opened. -/
theorem Desk.exists_trial : ∃ desk, trial? = some desk :=
  Option.isSome_iff_exists.mp (by decide)

/-! ## Jobs -/

/-- The job with the worker at a later time. -/
structure Job.Later (job job' : Job) : Prop where
  index : job'.index = job.index
  query : job'.query = job.query
  limit : job'.limit = job.limit
  done : job.isDone = true → job' = job

/-- A job that found something found what its index holds. -/
def Job.Honest (job : Job) : Prop :=
  ∀ found, job.status = .found found → job.index.find job.query.value job.limit = .ok found

namespace Job

theorem later_refl (job : Job) : job.Later job := ⟨rfl, rfl, rfl, fun _ => rfl⟩

theorem later_run (job : Job) : job.Later job.run := by
  unfold run
  split
  · exact later_refl job
  · next h => exact ⟨rfl, rfl, rfl, fun hd => absurd hd h⟩

theorem later_fail (fault : Fault) (job : Job) : job.Later (job.fail fault) := by
  unfold fail
  split
  · exact later_refl job
  · next h => exact ⟨rfl, rfl, rfl, fun hd => absurd hd h⟩

/-- What has become of a job goes on. -/
theorem Later.trans {job₁ job₂ job₃ : Job} (h : job₁.Later job₂) (h' : job₂.Later job₃) :
    job₁.Later job₃ where
  index := h'.index.trans h.index
  query := h'.query.trans h.query
  limit := h'.limit.trans h.limit
  done := fun hd => by
    have he := h.done hd
    subst he
    exact h'.done hd

/-- Running a job makes it done. -/
theorem isDone_run (job : Job) : job.run.isDone = true := by
  unfold run
  split
  · next h => exact h
  · show ({ job with status := job.outcome } : Job).isDone = true
    unfold isDone outcome
    cases job.index.find job.query.value job.limit <;> rfl

/-- Running a job keeps it honest. -/
theorem Honest.run {job : Job} (h : job.Honest) : job.run.Honest := by
  unfold Job.run
  split
  · exact h
  · intro found hs
    change job.outcome = .found found at hs
    change job.index.find job.query.value job.limit = .ok found
    unfold outcome at hs
    cases hf : job.index.find job.query.value job.limit with
    | error fault => rw [hf] at hs; cases hs
    | ok matched => rw [hf] at hs; cases hs; rfl

/-- A job that fails is honest. -/
theorem Honest.fail {job : Job} (h : job.Honest) (fault : Fault) : (job.fail fault).Honest := by
  unfold Job.fail
  split
  · exact h
  · intro found hs
    cases hs

end Job

/-- The jobs with the worker at a later time: each is where it was, and honest if it was. -/
def Evolved (jobs jobs' : List Job) : Prop :=
  ∀ ticket : Nat, ∃ f : Job → Job, jobs'[ticket]? = jobs[ticket]?.map f ∧
    ∀ job, job.Later (f job) ∧ (job.Honest → (f job).Honest)

namespace Evolved

variable {jobs jobs' : List Job} {ticket : Nat} {job : Job}

theorem refl (jobs : List Job) : Evolved jobs jobs := fun _ =>
  ⟨id, by rw [Option.map_id_fun, id_eq], fun job => ⟨job.later_refl, id⟩⟩

theorem map_run (jobs : List Job) : Evolved jobs (jobs.map Job.run) := fun _ =>
  ⟨Job.run, List.getElem?_map, fun job => ⟨job.later_run, Job.Honest.run⟩⟩

theorem map_fail (jobs : List Job) (fault : Fault) : Evolved jobs (jobs.map (Job.fail fault)) :=
  fun _ => ⟨Job.fail fault, List.getElem?_map, fun job => ⟨job.later_fail fault, (·.fail fault)⟩⟩

theorem set_run (h : jobs[ticket]? = some job) : Evolved jobs (jobs.set ticket job.run) := by
  intro other
  by_cases ho : ticket = other
  · subst ho
    obtain ⟨hlt, -⟩ := List.getElem?_eq_some_iff.mp h
    refine ⟨Job.run, ?_, fun job => ⟨job.later_run, Job.Honest.run⟩⟩
    rw [List.getElem?_set_self hlt, h]
    rfl
  · refine ⟨id, ?_, fun job => ⟨job.later_refl, id⟩⟩
    rw [List.getElem?_set_ne ho, Option.map_id_fun, id_eq]

theorem modify_fail (jobs : List Job) (ticket : Nat) (fault : Fault) :
    Evolved jobs (jobs.modify ticket (Job.fail fault)) := by
  intro other
  by_cases ho : ticket = other
  · subst ho
    exact ⟨Job.fail fault, List.getElem?_modify_eq .., fun job =>
      ⟨job.later_fail fault, (·.fail fault)⟩⟩
  · refine ⟨id, ?_, fun job => ⟨job.later_refl, id⟩⟩
    rw [List.getElem?_modify_ne _ _ ho, Option.map_id_fun, id_eq]

/-- A job is still there later. -/
theorem later (h : Evolved jobs jobs') (hj : jobs[ticket]? = some job) :
    ∃ job', jobs'[ticket]? = some job' ∧ job.Later job' := by
  obtain ⟨f, hf, hl⟩ := h ticket
  rw [hj] at hf
  exact ⟨f job, hf, (hl job).1⟩

/-- Jobs that evolve stay honest. -/
theorem honest (h : Evolved jobs jobs') (hj : ∀ job ∈ jobs, job.Honest) :
    ∀ job ∈ jobs', job.Honest := by
  intro job' hm
  obtain ⟨ticket, hlt, rfl⟩ := List.getElem_of_mem hm
  obtain ⟨f, hf, hl⟩ := h ticket
  rw [List.getElem?_eq_getElem hlt] at hf
  obtain ⟨job, hjob, he⟩ := Option.map_eq_some_iff.mp hf.symm
  rw [← he]
  exact (hl job).2 (hj job (List.mem_of_getElem? hjob))

end Evolved

namespace Desk

variable {desk : Desk}

/-! ## Events that leave the session alone -/

/-- Running jobs leaves the session alone. -/
theorem runJobs_aside (desk : Desk) (position : Option Int) :
    (desk.runJobs position).2.session = desk.session ∧
      Evolved desk.jobs (desk.runJobs position).2.jobs := by
  unfold runJobs
  split
  · exact ⟨rfl, Evolved.map_run desk.jobs⟩
  · split
    · exact ⟨rfl, Evolved.refl desk.jobs⟩
    · next job n hj =>
      obtain ⟨place, -, hn⟩ := Option.bind_eq_some_iff.mp hj
      obtain ⟨found, hfound, he⟩ := Option.map_eq_some_iff.mp hn
      cases he
      exact ⟨rfl, Evolved.set_run hfound⟩

/-- Waiting leaves the session alone. -/
theorem wait_aside (desk : Desk) :
    desk.wait.2.session = desk.session ∧ Evolved desk.jobs desk.wait.2.jobs := by
  unfold wait
  split
  · exact ⟨rfl, Evolved.refl desk.jobs⟩
  · simp only
    split
    · exact desk.runJobs_aside _
    · exact desk.runJobs_aside _

/-- Executing leaves session and jobs alone. -/
theorem execute_aside (desk : Desk) :
    desk.execute.2.session = desk.session ∧ desk.execute.2.jobs = desk.jobs := by
  unfold execute
  split
  · exact ⟨rfl, rfl⟩
  · exact ⟨rfl, rfl⟩
  · simp only
    split <;> exact ⟨rfl, rfl⟩

/-- An event beside the session leaves the session alone, and the jobs go on. -/
theorem step_aside {event : Event} (h : event.IsAside) (desk : Desk) :
    (desk.step event).2.session = desk.session ∧
      Evolved desk.jobs (desk.step event).2.jobs := by
  cases event with
  | clock time => exact ⟨rfl, Evolved.refl desk.jobs⟩
  | execute =>
    obtain ⟨hs, hj⟩ := desk.execute_aside
    exact ⟨hs, by show Evolved desk.jobs desk.execute.2.jobs; rw [hj]; exact Evolved.refl _⟩
  | runJobs position => exact desk.runJobs_aside position
  | failJobs fault => exact ⟨rfl, Evolved.map_fail desk.jobs fault⟩
  | failJob ticket fault => exact ⟨rfl, Evolved.modify_fail desk.jobs ticket fault⟩
  | refuse refusing => exact ⟨rfl, Evolved.refl desk.jobs⟩
  | wait => exact desk.wait_aside
  | text | tick | flush | navigate | rebuild | submit | poll | close | closing => exact h.elim

/-- Moving the cursor changes the cursor alone, if the command is one. -/
theorem navigate_cases (desk : Desk) (given : Value) :
    (∃ fault, desk.step (.navigate given) = (.error fault, desk)) ∨
    ∃ cursor, desk.step (.navigate given)
      = (.ok (.row cursor.index), { desk with session := { desk.session with cursor } }) := by
  unfold step
  cases hn : desk.session.navigate given with
  | error fault => exact Or.inl ⟨fault, rfl⟩
  | ok session =>
    obtain ⟨cursor, rfl⟩ := Session.navigate_cases hn
    exact Or.inr ⟨cursor, rfl⟩

/-! ## Handing a query to the worker -/

/-- The job that a query would be searched by. -/
def nextJob (desk : Desk) (query : Query) : Job :=
  ⟨desk.session.index, query, desk.session.limit, .running⟩

/-- A query is answered from memory, refused by the worker, or scheduled under the next ticket. -/
theorem submit_cases (desk : Desk) (query : Query) :
    (desk.session.memo.holds query = true ∧
      desk.step (.submit query)
        = (.ok (.changed false), { desk with session := desk.session.recalled })) ∨
    desk.session.memo.holds query = false ∧
      ((desk.refusing = true ∧ desk.step (.submit query)
        = (.error (.worker "executor is down"),
            { desk with session := desk.session.refused })) ∨
      (desk.refusing = false ∧ desk.step (.submit query)
        = (.ok (.changed true), { desk with
            session := desk.session.scheduled query desk.jobs.length
            jobs := desk.jobs ++ [desk.nextJob query] }))) := by
  show _ ∧ desk.submit query = _ ∨ _ ∧ (_ ∧ desk.submit query = _ ∨ _ ∧ desk.submit query = _)
  unfold submit
  rcases desk.session.submit_cases query
      (if desk.refusing then .error (.worker "executor is down") else .ok desk.jobs.length) with
    ⟨hh, he⟩ | ⟨hh, ⟨fault, ha, he⟩ | ⟨ticket, ha, he⟩⟩
  · exact Or.inl ⟨hh, by simp only [he]; rfl⟩
  · refine Or.inr ⟨hh, Or.inl ?_⟩
    split at ha
    · next hr => cases ha; exact ⟨hr, by simp only [he]; rfl⟩
    · cases ha
  · refine Or.inr ⟨hh, Or.inr ?_⟩
    split at ha
    · cases ha
    · next hr => cases ha; exact ⟨by simpa using hr, by simp only [he]; rfl⟩

/-! ## Histories -/

/-- Nothing happens at any place of an empty list of events. -/
theorem forall_split_nil {P : List Event → Event → List Event → Prop} :
    ∀ before event after, [] = before ++ event :: after → P before event after := by
  intro before event after h
  cases before <;> cases h

/-- The places of a list of events: its first one, and those of the rest. -/
theorem forall_split_cons {P : List Event → Event → List Event → Prop} {event : Event}
    {rest : List Event} :
    (∀ before next after, event :: rest = before ++ next :: after → P before next after) ↔
      P [] event rest ∧ ∀ before next after, rest = before ++ next :: after →
        P (event :: before) next after := by
  constructor
  · intro h
    refine ⟨h [] event rest rfl, fun before next after he => ?_⟩
    exact h (event :: before) next after (by rw [he]; rfl)
  · rintro ⟨hfirst, hrest⟩ before next after he
    cases before with
    | nil => cases he; exact hfirst
    | cons first before => cases he; exact hrest before next after rfl

@[simp] theorem history_nil (desk : Desk) : desk.history [] = desk := rfl

@[simp] theorem history_cons (desk : Desk) (event : Event) (rest : List Event) :
    desk.history (event :: rest) = (desk.step event).2.history rest := rfl

/-- A history goes on where another one ends. -/
theorem history_append (desk : Desk) (first second : List Event) :
    desk.history (first ++ second) = (desk.history first).history second :=
  List.foldl_append

/-- A job with the worker keeps its ticket, whatever happens. -/
theorem step_later : ∀ (event : Event) {desk : Desk} {ticket : Nat} {job : Job},
    desk.jobs[ticket]? = some job →
      ∃ job', (desk.step event).2.jobs[ticket]? = some job' ∧ job.Later job' := by
  intro event
  induction event with
  | text | tick | flush | rebuild | poll | close =>
    intro desk ticket job hj
    exact ⟨job, hj, job.later_refl⟩
  | navigate given =>
    intro desk ticket job hj
    rcases desk.navigate_cases given with ⟨fault, he⟩ | ⟨cursor, he⟩
    · rw [he]; exact ⟨job, hj, job.later_refl⟩
    · rw [he]; exact ⟨job, hj, job.later_refl⟩
  | submit query =>
    intro desk ticket job hj
    rcases desk.submit_cases query with ⟨-, he⟩ | ⟨-, ⟨-, he⟩ | ⟨-, he⟩⟩
    · rw [he]; exact ⟨job, hj, job.later_refl⟩
    · rw [he]; exact ⟨job, hj, job.later_refl⟩
    · rw [he]
      -- the new job is put after all others
      obtain ⟨hlt, -⟩ := List.getElem?_eq_some_iff.mp hj
      refine ⟨job, ?_, job.later_refl⟩
      rw [← hj]
      exact List.getElem?_append_left hlt
  | closing event ih =>
    intro desk ticket job hj
    exact ih hj
  | clock | execute | runJobs | failJobs | failJob | refuse | wait =>
    intro desk ticket job hj
    refine (step_aside ?_ desk).2.later hj
    trivial

/-- A job never leaves its place in the list. -/
theorem history_later {ticket : Nat} {job : Job} : ∀ (events : List Event) {desk : Desk},
    desk.jobs[ticket]? = some job →
      ∃ job', (desk.history events).jobs[ticket]? = some job' ∧ job.Later job' := by
  intro events
  induction events generalizing job with
  | nil => intro desk hj; exact ⟨job, hj, job.later_refl⟩
  | cons event rest ih =>
    intro desk hj
    obtain ⟨job₁, hj₁, hl₁⟩ := step_later event hj
    obtain ⟨job₂, hj₂, hl₂⟩ := ih hj₁
    exact ⟨job₂, hj₂, hl₁.trans hl₂⟩

/-- What every event keeps holds after every history. -/
theorem history_induction {P : Desk → Prop} {allowed : Event → Prop}
    (hstep : ∀ desk event, allowed event → P desk → P (desk.step event).2) :
    ∀ (events : List Event) {desk : Desk}, (∀ event ∈ events, allowed event) → P desk →
      P (desk.history events) := by
  intro events
  induction events with
  | nil => intro desk _ h; exact h
  | cons event rest ih =>
    intro desk hall h
    rw [history_cons]
    refine ih (fun e he => hall e (List.mem_cons_of_mem _ he)) ?_
    exact hstep desk event (hall event List.mem_cons_self) h

end Desk

end Launcher
