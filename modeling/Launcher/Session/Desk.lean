import Launcher.Session.Basic

/-!
# A session among its surroundings

A desk is a session with what it works with: a clock, a worker that runs background searches, and a
handler that actions are handed to. A worker that runs by hand queues its jobs until it is told to
run them or to let them fail; one that runs by itself is only waited for.

`Desk.step` carries out one event. It is the only place where the parts meet, so a history of a
session is a list of events.

Modelled are `SearchController` with a worker, a clock and a handler of the caller's, and leaving it
as a context (`closing`). A search runs at one moment, the one at which its job is run.
-/

namespace Launcher

/-- A background search with the worker. -/
structure Job where
  index : Index
  query : Query
  limit : Number
  status : JobStatus

/-- What becomes of an action that is executed. -/
inductive Handler where
  | absent
  | collecting
  | failing (fault : Fault)

/-- A session with its surroundings. -/
structure Desk where
  session : Session
  /-- What the clock shows. -/
  clock : Value
  jobs : List Job
  /-- The worker refuses jobs. -/
  refusing : Bool
  handler : Handler
  /-- The actions that were handed to the handler. -/
  launched : List Value

/-- Something that happens at a desk. -/
inductive Event where
  | clock (time : Value)
  | text (query : Query)
  /-- Time has passed; without a time it is the one on the clock. -/
  | tick (now : Value)
  | flush
  | navigate (given : Value)
  | execute
  | rebuild (entries : List Entry)
  | submit (query : Query)
  | poll
  | close
  /-- Runs the job at a position, or all jobs, unless they are done. -/
  | runJobs (position : Option Int)
  | failJobs (fault : Fault)
  /-- Lets the job with a ticket fail, unless it is done. -/
  | failJob (ticket : Nat) (fault : Fault)
  | refuse (refusing : Bool)
  /-- Waits for the background search, which may fail. -/
  | wait
  /-- Lets another event happen and closes the session after it, also after a fault. -/
  | closing (event : Event)

/-- What an event answers. -/
inductive Answer where
  | nothing
  | changed (flag : Bool)
  | row (row : Option Number)
  | action (action : Value)
  | count (n : Nat)

namespace Job

/-- The job is done, with a result or a failure. -/
def isDone (job : Job) : Bool :=
  match job.status with
  | .running => false
  | _ => true

/-- What the search of the job gives. -/
def outcome (job : Job) : JobStatus :=
  match job.index.find job.query.value job.limit with
  | .ok found => .found found
  | .error fault => .failed fault

/-- The job after it has been run; one that is done stays as it is. -/
def run (job : Job) : Job := if job.isDone then job else { job with status := job.outcome }

/-- The job after it has failed; one that is done stays as it is. -/
def fail (fault : Fault) (job : Job) : Job :=
  if job.isDone then job else { job with status := .failed fault }

end Job

namespace Desk

/-- A desk at time zero with a worker that has no jobs. -/
def create (session : Session) (handler : Handler) : Desk :=
  { session, clock := .float 0.0, jobs := [], refusing := false, handler, launched := [] }

/-- What has become of the job with a ticket. -/
def status (desk : Desk) (ticket : Nat) : JobStatus :=
  match desk.jobs[ticket]? with
  | some job => job.status
  | none => .running

/-- The desk after an operation of its session that tells whether something changed. -/
def afterChange (desk : Desk) (outcome : Except Fault Bool × Session) :
    Except Fault Answer × Desk :=
  (outcome.1.map .changed, { desk with session := outcome.2 })

/-- Executes the action of the entry under the cursor. -/
def execute (desk : Desk) : Except Fault Answer × Desk :=
  match desk.session.selected? with
  | .error fault => (.error fault, desk)
  | .ok none => (.ok .nothing, desk)
  | .ok (some entry) =>
    let handed := { desk with launched := desk.launched ++ [entry.action] }
    match desk.handler with
    | .absent => (.ok (.action entry.action), desk)
    | .collecting => (.ok (.action entry.action), handed)
    | .failing fault => (.error fault, handed)

/-- Hands a query to the worker. -/
def submit (desk : Desk) (query : Query) : Except Fault Answer × Desk :=
  let session := desk.session
  let ticket := desk.jobs.length
  let accepted : Except Fault Nat :=
    if desk.refusing then .error (.worker "executor is down") else .ok ticket
  let (result, after) := session.submit query accepted
  let jobs := match result with
    | .ok true => desk.jobs ++ [⟨session.index, query, session.limit, .running⟩]
    | _ => desk.jobs
  (result.map .changed, { desk with session := after, jobs })

/-- Runs jobs that are not done and tells how many. -/
def runJobs (desk : Desk) (position : Option Int) : Except Fault Answer × Desk :=
  match position with
  | none =>
    (.ok (.count (desk.jobs.filter fun job => !job.isDone).length),
      { desk with jobs := desk.jobs.map Job.run })
  | some position =>
    match (placeOf? desk.jobs.length position).bind fun n => (desk.jobs[n]?).map (·, n) with
    | none => (.error .outOfRange, desk)
    | some (job, n) =>
      (.ok (.count (if job.isDone then 0 else 1)), { desk with jobs := desk.jobs.set n job.run })

/-- Waits for the background search. -/
def wait (desk : Desk) : Except Fault Answer × Desk :=
  match desk.session.pending with
  | none => (.ok .nothing, desk)
  | some pending =>
    let after := (desk.runJobs (some pending.ticket)).2
    match after.status pending.ticket with
    | .failed fault => (.error fault, after)
    | _ => (.ok .nothing, after)

/-- Carries out an event. -/
def step (desk : Desk) : Event → Except Fault Answer × Desk
  | .clock time => (.ok .nothing, { desk with clock := time })
  | .text query => desk.afterChange (desk.session.textChanged query desk.clock)
  | .tick now => desk.afterChange (desk.session.tick (if now.isNull then desk.clock else now))
  | .flush => desk.afterChange desk.session.flush
  | .navigate given =>
    match desk.session.navigate given with
    | .ok session => (.ok (.row session.cursor.index), { desk with session })
    | .error fault => (.error fault, desk)
  | .execute => desk.execute
  | .rebuild entries =>
    let (result, session) := desk.session.rebuild entries
    (result.map fun () => .nothing, { desk with session })
  | .submit query => desk.submit query
  | .poll => desk.afterChange (desk.session.poll desk.status)
  | .close => (.ok .nothing, { desk with session := desk.session.close })
  | .runJobs position => desk.runJobs position
  | .failJobs fault => (.ok .nothing, { desk with jobs := desk.jobs.map (Job.fail fault) })
  | .failJob ticket fault =>
    (.ok .nothing, { desk with jobs := desk.jobs.modify ticket (Job.fail fault) })
  | .refuse refusing => (.ok .nothing, { desk with refusing })
  | .wait => desk.wait
  | .closing event =>
    let (result, after) := desk.step event
    (result, { after with session := after.session.close })

/-- The desk after a list of events, whether or not they succeed. -/
def history (desk : Desk) (events : List Event) : Desk :=
  events.foldl (fun desk event => (desk.step event).2) desk

end Desk

end Launcher
