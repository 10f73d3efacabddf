import Launcher.Proofs.Session.Course

/-!
# The order in which requests are shown

Every text that is typed and every query that is submitted is a request, numbered in the order in
which they are made. A `Ledger` is what somebody writes down who sees the events and their answers
only: the requests, the number of the text typed last, the number of the query scheduled last, and
the numbers of the requests shown, the newest first. A tick or a flush that changes what is shown is
put down to the text typed last, a poll to the query scheduled last. `Ledger.Fits` is the invariant
that bears this out, so that the request put down last is always the query shown.

A request may be kept for later in two places, held until typing rests or with the worker. A search
at once empties both, and a query that is scheduled replaces the one with the worker, but it leaves
alone a text that is held:

> `shown_in_order_iff`: the requests shown have rising numbers exactly if no tick and no flush
> searches a held text after a request made later has been shown.

That takes a query which is scheduled while a text is held (`shown_in_order_of_not_overtakes`);
`trial_goes_back` is a history in which it happens.
-/

namespace Launcher

/-- The event searches a text that was held, if any was. -/
def Event.IsRelease : Event → Prop
  | .tick _ | .flush => True
  | .closing event => event.IsRelease
  | _ => False

/-- What has been asked and what of it has been shown. -/
structure Ledger where
  /-- The requests; the number of a request is its place. -/
  requests : List Query
  /-- The number of the text typed last. -/
  typed : Nat
  /-- The number of the query scheduled last. -/
  sent : Nat
  /-- The numbers of the requests shown, the newest first. -/
  shown : List Nat

/-- The event schedules a query although a text is held. -/
def Desk.Overtakes (desk : Desk) : Event → Prop
  | .submit query =>
    desk.session.waiting?.isSome = true ∧ changesView (desk.step (.submit query)).1 = true
  | .closing event => desk.Overtakes event
  | _ => False

namespace Ledger

/-- Nothing has been asked. -/
def blank : Ledger := ⟨[], 0, 0, []⟩

/-- The numbers shown after a request has been shown, if the answer says so. -/
def put (ledger : Ledger) (number : Nat) (answer : Except Fault Answer) : List Nat :=
  if changesView answer then number :: ledger.shown else ledger.shown

/-- Writes down an event and its answer. -/
def note (ledger : Ledger) : Event → Except Fault Answer → Ledger
  | .text query, answer =>
    let number := ledger.requests.length
    { ledger with
      requests := ledger.requests ++ [query]
      typed := if answer.isOk then number else ledger.typed
      shown := ledger.put number answer }
  | .submit query, answer =>
    let number := ledger.requests.length
    { ledger with
      requests := ledger.requests ++ [query]
      sent := if changesView answer then number else ledger.sent }
  | .tick _, answer | .flush, answer => { ledger with shown := ledger.put ledger.typed answer }
  | .poll, answer => { ledger with shown := ledger.put ledger.sent answer }
  | .closing event, answer => ledger.note event answer
  | _, _ => ledger

/-- A tick or a flush shows a held text although a request made later has been shown. -/
def GoesBack (ledger : Ledger) (event : Event) (answer : Except Fault Answer) : Prop :=
  event.IsRelease ∧ changesView answer = true ∧ ∃ number ∈ ledger.shown, ledger.typed < number

/-- The ledger is true of a session: what is held, what is with the worker and what is shown are
the requests that it puts them down to, and neither of those kept for later has been shown. -/
structure Fits (ledger : Ledger) (session : Session) : Prop where
  bound : ∀ number ∈ ledger.shown, number < ledger.requests.length
  top : ∀ number ∈ ledger.shown.head?, ledger.requests[number]? = some session.query
  held : ∀ held, session.waiting? = some held →
    ledger.requests[ledger.typed]? = some held.query ∧ ledger.typed ∉ ledger.shown
  pending : ∀ p, session.pending = some p →
    ledger.requests[ledger.sent]? = some p.query ∧ ∀ number ∈ ledger.shown, number < ledger.sent
  apart : ∀ held p, session.waiting? = some held → session.pending = some p →
    ledger.typed ≠ ledger.sent

variable {ledger : Ledger} {session after : Session} {event : Event} {answer : Except Fault Answer}

theorem lt_of_getElem? {requests : List Query} {number : Nat} {query : Query}
    (h : requests[number]? = some query) : number < requests.length :=
  (List.getElem?_eq_some_iff.mp h).1

/-- A number that has been given keeps its request. -/
theorem getElem?_concat {requests : List Query} {number : Nat} {query next : Query}
    (h : requests[number]? = some query) : (requests ++ [next])[number]? = some query := by
  rw [← h]
  exact List.getElem?_append_left (lt_of_getElem? h)

/-! ## What keeps a ledger true -/

/-- A ledger stays true when something kept for later is given up and the query shown stays. -/
theorem Fits.weaken (h : ledger.Fits session) (hq : after.query = session.query)
    (hw : after.waiting? = none ∨ after.waiting? = session.waiting?)
    (hp : after.pending = none ∨ after.pending = session.pending) : ledger.Fits after := by
  have hheld : ∀ held, after.waiting? = some held → session.waiting? = some held := by
    intro held he
    rcases hw with hnone | hsame
    · rw [hnone] at he; cases he
    · rw [← hsame]; exact he
  have hpend : ∀ p, after.pending = some p → session.pending = some p := by
    intro p he
    rcases hp with hnone | hsame
    · rw [hnone] at he; cases he
    · rw [← hsame]; exact he
  exact { bound := h.bound
          top := by rw [hq]; exact h.top
          held := fun held he => h.held held (hheld held he)
          pending := fun p he => h.pending p (hpend p he)
          apart := fun held p he hp' => h.apart held p (hheld held he) (hpend p hp') }

/-- A ledger stays true when another request is made that is neither kept nor shown. -/
theorem Fits.asked (h : ledger.Fits session) (query : Query) :
    { ledger with requests := ledger.requests ++ [query] }.Fits session where
  bound := fun number hm => by
    have := h.bound number hm
    show number < (ledger.requests ++ [query]).length
    rw [List.length_append]
    omega
  top := fun number hm => getElem?_concat (h.top number hm)
  held := fun held hw => ⟨getElem?_concat (h.held held hw).1, (h.held held hw).2⟩
  pending := fun p hp => ⟨getElem?_concat (h.pending p hp).1, (h.pending p hp).2⟩
  apart := h.apart

/-- A ledger stays true when a text is typed, if nothing is held but that text. -/
theorem Fits.typing {query : Query} (h : ledger.Fits session) (hq : after.query = session.query)
    (hw : ∀ held, after.waiting? = some held → held.query = query)
    (hp : after.pending = none ∨ after.pending = session.pending) :
    { ledger with
      requests := ledger.requests ++ [query], typed := ledger.requests.length }.Fits after where
  bound := (h.asked query).bound
  top := by rw [hq]; exact (h.asked query).top
  held := by
    intro held he
    refine ⟨?_, fun hm => absurd (h.bound _ hm) (Nat.lt_irrefl _)⟩
    rw [hw held he]
    exact List.getElem?_concat_length
  pending := by
    intro p he
    rcases hp with hnone | hsame
    · rw [hnone] at he; cases he
    · rw [hsame] at he
      exact (h.asked query).pending p he
  apart := by
    intro held p _ he hsame
    rcases hp with hnone | hsame'
    · rw [hnone] at he; cases he
    · rw [hsame'] at he
      have hlt := lt_of_getElem? (h.pending p he).1
      change ledger.requests.length = ledger.sent at hsame
      omega

/-- A ledger stays true when a query is scheduled. -/
theorem Fits.sending {query : Query} {ticket : Nat} (h : ledger.Fits session) :
    { ledger with
      requests := ledger.requests ++ [query], sent := ledger.requests.length }.Fits
        (session.scheduled query ticket) where
  bound := (h.asked query).bound
  top := (h.asked query).top
  held := (h.asked query).held
  pending := by
    intro p hp
    cases hp
    exact ⟨List.getElem?_concat_length, h.bound⟩
  apart := by
    intro held p hw _ he
    have hlt := lt_of_getElem? (h.held held hw).1
    change ledger.typed = ledger.requests.length at he
    omega

/-- A ledger stays true when a request is shown and nothing is with the worker any more. -/
theorem Fits.showing {number : Nat} (h : ledger.Fits session)
    (hq : ledger.requests[number]? = some after.query) (hp : after.pending = none)
    (hw : ∀ held, after.waiting? = some held →
      session.waiting? = some held ∧ ledger.typed ≠ number) :
    { ledger with shown := number :: ledger.shown }.Fits after where
  bound := by
    intro other hm
    rcases List.mem_cons.mp hm with rfl | hm
    · exact lt_of_getElem? hq
    · exact h.bound other hm
  top := by
    intro other hm
    cases hm
    exact hq
  held := by
    intro held he
    obtain ⟨hs, hne⟩ := hw held he
    refine ⟨(h.held held hs).1, fun hm => ?_⟩
    rcases List.mem_cons.mp hm with he | hm
    · exact hne he
    · exact (h.held held hs).2 hm
  pending := by
    intro p he
    rw [hp] at he
    cases he
  apart := by
    intro held p _ he
    rw [hp] at he
    cases he

/-! ## What one event does to a ledger -/

/-- The ledger stays true, and the numbers shown stay in order unless the event goes back. -/
structure Follows (ledger : Ledger) (event : Event) (answer : Except Fault Answer)
    (after : Session) : Prop where
  fits : (ledger.note event answer).Fits after
  order : (ledger.note event answer).shown.Pairwise (· > ·) ↔
    ledger.shown.Pairwise (· > ·) ∧ ¬ledger.GoesBack event answer

/-- An event that shows no request keeps the numbers shown in order. -/
theorem follows_quiet (hfits : (ledger.note event answer).Fits after)
    (hshown : (ledger.note event answer).shown = ledger.shown)
    (hback : ¬(event.IsRelease ∧ changesView answer = true)) :
    ledger.Follows event answer after := by
  refine ⟨hfits, ?_⟩
  rw [hshown]
  exact ⟨fun h => ⟨h, fun hg => hback ⟨hg.1, hg.2.1⟩⟩, And.left⟩

/-- An event that shows a request newer than all that were shown keeps them in order. -/
theorem follows_newer {number : Nat} (hfits : (ledger.note event answer).Fits after)
    (hshown : (ledger.note event answer).shown = number :: ledger.shown)
    (hnewer : ∀ other ∈ ledger.shown, other < number) (hback : ¬event.IsRelease) :
    ledger.Follows event answer after := by
  refine ⟨hfits, ?_⟩
  rw [hshown, List.pairwise_cons]
  exact ⟨fun h => ⟨h.2, fun hg => hback hg.1⟩, fun h => ⟨hnewer, h.1⟩⟩

/-- An event that shows the held text keeps the numbers in order if that text is the newest. -/
theorem follows_release (hfits : (ledger.note event answer).Fits after)
    (hshown : (ledger.note event answer).shown = ledger.typed :: ledger.shown)
    (hrelease : event.IsRelease) (hchange : changesView answer = true)
    (hfresh : ledger.typed ∉ ledger.shown) : ledger.Follows event answer after := by
  refine ⟨hfits, ?_⟩
  rw [hshown, List.pairwise_cons]
  -- the held text has not been shown yet, so it is older or newer than each request shown
  constructor
  · rintro ⟨hnewer, hp⟩
    refine ⟨hp, ?_⟩
    rintro ⟨-, -, number, hm, hlt⟩
    have := hnewer number hm
    omega
  · rintro ⟨hp, hback⟩
    refine ⟨fun number hm => ?_, hp⟩
    have hne : ledger.typed ≠ number := fun he => hfresh (he ▸ hm)
    have hle : ¬ledger.typed < number := fun hlt =>
      hback ⟨hrelease, hchange, number, hm, hlt⟩
    omega

/-- Typing: the text is searched at once, or it is the one held. -/
theorem follows_text (h : ledger.Fits session) (query : Query) (now : Value) :
    ledger.Follows (.text query) ((session.textChanged query now).1.map .changed)
      (session.textChanged query now).2 := by
  rcases session.textChanged_cases query now with
    ⟨hd, he⟩ | ⟨debounce, -, ⟨fault, he⟩ | ⟨holding, hh, he⟩⟩
  · -- without a debounce nothing is ever held
    have hnone : session.waiting? = none := by
      unfold Session.waiting?
      rw [hd]
      rfl
    have hw : ∀ held, session.waiting? = some held → held.query = query := by
      rw [hnone]
      nofun
    rw [he, Session.run_eq]
    split
    · exact follows_quiet (h.typing rfl hw (Or.inl rfl)) rfl nofun
    · split
      · exact follows_quiet ((h.asked query).weaken rfl (Or.inr rfl) (Or.inr rfl)) rfl nofun
      · refine follows_newer ?_ rfl h.bound id
        refine (h.typing rfl hw (Or.inr rfl)).showing List.getElem?_concat_length rfl ?_
        intro held hs
        rw [show session.waiting? = some held from hs] at hnone
        cases hnone
  · rw [he]
    exact follows_quiet (h.asked query) rfl nofun
  · rw [he]
    refine follows_quiet (h.typing rfl ?_ (Or.inr rfl)) rfl nofun
    exact Debounce.query_of_hold hh

/-- A release that finds nothing to search. -/
theorem follows_idle (h : ledger.Fits session)
    (hnote : ledger.note event answer = { ledger with shown := ledger.put ledger.typed answer })
    (hno : changesView answer = false) : ledger.Follows event answer session := by
  have hshown : ledger.put ledger.typed answer = ledger.shown := by
    unfold put
    rw [hno]
    rfl
  rw [hshown] at hnote
  refine follows_quiet (by rw [hnote]; exact h) (by rw [hnote]) ?_
  rintro ⟨-, hyes⟩
  rw [hno] at hyes
  cases hyes

/-- A release that searches what is held. -/
theorem follows_flush (h : ledger.Fits session) (hrelease : event.IsRelease)
    (hnote : ∀ answer, ledger.note event answer
      = { ledger with shown := ledger.put ledger.typed answer }) :
    ledger.Follows event (session.flush.1.map .changed) session.flush.2 := by
  rw [Session.flush_eq]
  cases hw : session.waiting? with
  | none => exact follows_idle h (hnote _) rfl
  | some held =>
    obtain ⟨hq, hfresh⟩ := h.held held hw
    show ledger.Follows event ((session.released.run held.query).1.map .changed)
      (session.released.run held.query).2
    rw [Session.run_eq]
    split
    · refine follows_idle (h.weaken rfl (Or.inl ?_) (Or.inl rfl)) (hnote _) rfl
      exact session.waiting?_released
    · split
      · refine follows_idle (h.weaken rfl (Or.inl ?_) (Or.inr rfl)) (hnote _) rfl
        exact session.waiting?_released
      · next found _ =>
        refine follows_release ?_ (by rw [hnote]; rfl) hrelease rfl hfresh
        rw [hnote]
        refine h.showing hq rfl fun other hs => ?_
        have hnone : (session.released.searched held.query found).waiting? = none :=
          session.waiting?_released
        rw [hnone] at hs
        cases hs

/-- A tick writes down what it shows. -/
theorem follows_tick (h : ledger.Fits session) (given now : Value) :
    ledger.Follows (.tick given) ((session.tick now).1.map .changed) (session.tick now).2 := by
  rcases session.tick_cases now with ⟨fault, he⟩ | he | ⟨-, he⟩
  · rw [he]; exact follows_idle h rfl rfl
  · rw [he]; exact follows_idle h rfl rfl
  · rw [he]; exact follows_flush h trivial fun _ => rfl

/-- Polling shows the query scheduled last, which is newer than all that were shown. -/
theorem follows_poll (h : ledger.Fits session) (status : Nat → JobStatus) :
    ledger.Follows .poll ((session.poll status).1.map .changed) (session.poll status).2 := by
  rcases session.poll_cases status with
    ⟨-, he⟩ | ⟨p, hp, -, ⟨-, he⟩ | ⟨-, ⟨found, -, he⟩ | ⟨fault, -, he⟩⟩⟩
  · rw [he]; exact follows_quiet h rfl nofun
  · rw [he]
    exact follows_quiet (h.weaken rfl (Or.inr rfl) (Or.inl rfl)) rfl nofun
  · rw [he]
    obtain ⟨hq, hnewer⟩ := h.pending p hp
    refine follows_newer ?_ rfl hnewer id
    exact h.showing hq rfl fun held hw => ⟨hw, h.apart held p hw hp⟩
  · rw [he]
    exact follows_quiet (h.weaken rfl (Or.inr rfl) (Or.inl rfl)) rfl nofun

/-- Handing over a query writes down what it shows. -/
theorem follows_submit {desk : Desk} (h : ledger.Fits desk.session) (query : Query) :
    ledger.Follows (.submit query) (desk.step (.submit query)).1
      (desk.step (.submit query)).2.session := by
  rcases desk.submit_cases query with ⟨-, he⟩ | ⟨-, ⟨-, he⟩ | ⟨-, he⟩⟩
  · rw [he]
    exact follows_quiet ((h.asked query).weaken rfl (Or.inr rfl) (Or.inl rfl)) rfl nofun
  · rw [he]
    exact follows_quiet ((h.asked query).weaken rfl (Or.inr rfl) (Or.inr rfl)) rfl nofun
  · rw [he]
    exact follows_quiet h.sending rfl nofun

/-- Replacing the catalog searches the query shown, which is no new request. -/
theorem follows_rebuild (h : ledger.Fits session) (entries : List Entry) :
    ledger.Follows (.rebuild entries) ((session.rebuild entries).1.map fun () => .nothing)
      (session.rebuild entries).2 := by
  refine follows_quiet (h.weaken ?_ (Or.inr (session.waiting?_rebuild entries))
    (session.pending_rebuild entries)) rfl nofun
  rcases session.rebuild_cases entries with ⟨fault, -, he⟩ | ⟨index, -, he⟩
  · rw [he]
  · rw [he, Session.run_eq]
    split
    · rfl
    · split <;> rfl

/-- **One event keeps a ledger true.** -/
theorem follows_step : ∀ (event : Event) {desk : Desk}, ledger.Fits desk.session →
    ledger.Follows event (desk.step event).1 (desk.step event).2.session := by
  intro event
  induction event with
  | text query => intro desk h; exact follows_text h query desk.clock
  | tick now => intro desk h; exact follows_tick h now _
  | flush => intro desk h; exact follows_flush h trivial fun _ => rfl
  | poll => intro desk h; exact follows_poll h desk.status
  | submit query => intro desk h; exact follows_submit h query
  | rebuild entries => intro desk h; exact follows_rebuild h entries
  | close =>
    intro desk h
    exact follows_quiet (h.weaken rfl (Or.inr rfl) (Or.inl rfl)) rfl nofun
  | navigate given =>
    intro desk h
    rcases desk.navigate_cases given with ⟨fault, he⟩ | ⟨cursor, he⟩
    · rw [he]; exact follows_quiet h rfl nofun
    · rw [he]; exact follows_quiet (h.weaken rfl (Or.inr rfl) (Or.inr rfl)) rfl nofun
  | closing event ih =>
    intro desk h
    obtain ⟨hfits, horder⟩ := ih h
    exact ⟨hfits.weaken rfl (Or.inr rfl) (Or.inl rfl), horder⟩
  | clock | execute | runJobs | failJobs | failJob | refuse | wait =>
    intro desk h
    refine follows_quiet ?_ rfl nofun
    rw [(Desk.step_aside (by trivial) desk).1]
    exact h

/-! ## A held text that is the newest request -/

/-- A text that is held is newer than what has been shown and what is with the worker. -/
structure Ahead (ledger : Ledger) (session : Session) : Prop where
  shown : ∀ held, session.waiting? = some held → ∀ number ∈ ledger.shown, number < ledger.typed
  sent : ∀ held p, session.waiting? = some held → session.pending = some p →
    ledger.sent < ledger.typed

/-- Where nothing waits what waits is newer than what is shown. -/
theorem ahead_of_none (h : session.waiting? = none) : ledger.Ahead session where
  shown := fun held hw => by rw [h] at hw; cases hw
  sent := fun held p hw => by rw [h] at hw; cases hw

/-- What waits stays newer where no background search is begun. -/
theorem Ahead.weaken (h : ledger.Ahead session) (hw : after.waiting? = session.waiting?)
    (hp : after.pending = none ∨ after.pending = session.pending) : ledger.Ahead after where
  shown := by rw [hw]; exact h.shown
  sent := by
    intro held p he hpend
    rw [hw] at he
    rcases hp with hnone | hsame
    · rw [hnone] at hpend; cases hpend
    · rw [hsame] at hpend
      exact h.sent held p he hpend

/-- The text typed last is newer than what is shown. -/
theorem ahead_text (h : ledger.Fits session) (hl : ledger.Ahead session) (query : Query)
    (now : Value) :
    (ledger.note (.text query) ((session.textChanged query now).1.map .changed)).Ahead
      (session.textChanged query now).2 := by
  rcases session.textChanged_cases query now with
    ⟨hd, he⟩ | ⟨debounce, -, ⟨fault, he⟩ | ⟨holding, -, he⟩⟩
  · refine ahead_of_none ?_
    rw [he, session.waiting?_run]
    unfold Session.waiting?
    rw [hd]
    rfl
  · rw [he]
    exact ⟨hl.shown, hl.sent⟩
  · rw [he]
    exact ⟨fun _ _ => h.bound, fun _ p _ hp => lt_of_getElem? (h.pending p hp).1⟩

/-- After flushing nothing waits. -/
theorem waiting?_flush (session : Session) : session.flush.2.waiting? = none := by
  rw [Session.flush_eq]
  cases hw : session.waiting? with
  | none => exact hw
  | some held =>
    exact (session.released.waiting?_run held.query).trans session.waiting?_released

/-- A tick shows what waits, or leaves it newer. -/
theorem ahead_tick (hl : ledger.Ahead session) (given now : Value) :
    (ledger.note (.tick given) ((session.tick now).1.map .changed)).Ahead
      (session.tick now).2 := by
  rcases session.tick_cases now with ⟨fault, he⟩ | he | ⟨-, he⟩
  · rw [he]; exact hl
  · rw [he]; exact hl
  · rw [he]; exact ahead_of_none (waiting?_flush session)

/-- Polling leaves what waits newer. -/
theorem ahead_poll (hl : ledger.Ahead session) (status : Nat → JobStatus) :
    (ledger.note .poll ((session.poll status).1.map .changed)).Ahead (session.poll status).2 := by
  rcases session.poll_cases status with
    ⟨-, he⟩ | ⟨p, hp, -, ⟨-, he⟩ | ⟨-, ⟨found, -, he⟩ | ⟨fault, -, he⟩⟩⟩
  · rw [he]; exact hl
  · rw [he]; exact hl.weaken rfl (Or.inl rfl)
  · rw [he]
    refine ⟨fun held hw number hm => ?_, nofun⟩
    rcases List.mem_cons.mp hm with rfl | hm
    · exact hl.sent held p hw hp
    · exact hl.shown held hw number hm
  · rw [he]; exact hl.weaken rfl (Or.inl rfl)

/-- Scheduling a query lets it overtake a text that is held; no other event does. -/
theorem ahead_step : ∀ (event : Event) {desk : Desk}, ledger.Fits desk.session →
    ledger.Ahead desk.session → ¬desk.Overtakes event →
      (ledger.note event (desk.step event).1).Ahead (desk.step event).2.session := by
  intro event
  induction event with
  | text query => intro desk h hl _; exact ahead_text h hl query desk.clock
  | tick now => intro desk _ hl _; exact ahead_tick hl now _
  | flush => intro desk _ _ _; exact ahead_of_none (waiting?_flush desk.session)
  | poll => intro desk _ hl _; exact ahead_poll hl desk.status
  | submit query =>
    intro desk _ hl hover
    rcases desk.submit_cases query with ⟨-, he⟩ | ⟨-, ⟨-, he⟩ | ⟨-, he⟩⟩
    · rw [he]; exact ⟨hl.shown, nofun⟩
    · rw [he]; exact ⟨hl.shown, hl.sent⟩
    · -- the query is scheduled, so nothing is held
      have hnone : desk.session.waiting? = none := by
        cases hw : desk.session.waiting? with
        | none => rfl
        | some held => exact absurd ⟨by rw [hw]; rfl, by rw [he]; rfl⟩ hover
      rw [he]
      exact ahead_of_none hnone
  | rebuild entries =>
    intro desk _ hl _
    exact hl.weaken (desk.session.waiting?_rebuild entries) (desk.session.pending_rebuild entries)
  | close => intro desk _ hl _; exact hl.weaken rfl (Or.inl rfl)
  | navigate given =>
    intro desk _ hl _
    rcases desk.navigate_cases given with ⟨fault, he⟩ | ⟨cursor, he⟩
    · rw [he]; exact hl
    · rw [he]; exact hl.weaken rfl (Or.inr rfl)
  | closing event ih =>
    intro desk h hl hover
    exact (ih h hl hover).weaken rfl (Or.inl rfl)
  | clock | execute | runJobs | failJobs | failJob | refuse | wait =>
    intro desk _ hl _
    rw [(Desk.step_aside (by trivial) desk).1]
    exact hl

/-- Flushing shows something only where something waits. -/
theorem waiting?_of_flush (hc : changesView (session.flush.1.map .changed) = true) :
    ∃ held, session.waiting? = some held := by
  rw [Session.flush_eq] at hc
  cases hw : session.waiting? with
  | none => rw [hw] at hc; cases hc
  | some held => exact ⟨held, rfl⟩

/-- A release that changes what is shown has searched a held text. -/
theorem waiting?_of_release : ∀ (event : Event) {desk : Desk}, event.IsRelease →
    changesView (desk.step event).1 = true → ∃ held, desk.session.waiting? = some held := by
  intro event
  induction event with
  | flush => intro desk _ hc; exact waiting?_of_flush hc
  | tick now =>
    intro desk _ hc
    replace hc : changesView ((desk.session.tick _).1.map .changed) = true := hc
    rcases desk.session.tick_cases (if now.isNull then desk.clock else now) with
      ⟨fault, he⟩ | he | ⟨-, he⟩
    · rw [he] at hc; cases hc
    · rw [he] at hc; cases hc
    · rw [he] at hc; exact waiting?_of_flush hc
  | closing event ih => intro desk hr hc; exact ih hr hc
  | text | navigate | execute | rebuild | submit | poll | close | clock | runJobs | failJobs
    | failJob | refuse | wait => intro desk hr; exact hr.elim

/-- While a held text is the newest request, no event goes back. -/
theorem Ahead.not_goesBack {desk : Desk} (h : ledger.Ahead desk.session) (event : Event) :
    ¬ledger.GoesBack event (desk.step event).1 := by
  rintro ⟨hr, hc, number, hm, hlt⟩
  obtain ⟨held, hw⟩ := waiting?_of_release event hr hc
  have := h.shown held hw number hm
  omega

/-- A session with nothing under way fits the ledger without requests. -/
theorem fits_blank (hw : session.waiting? = none) (hp : session.pending = none) :
    blank.Fits session where
  bound := nofun
  top := nofun
  held := fun held he => by rw [hw] at he; cases he
  pending := fun p he => by rw [hp] at he; cases he
  apart := fun held p he => by rw [hw] at he; cases he

end Ledger

/-! ## The ledger of a history -/

namespace Desk

/-- The ledger after a list of events, from what has been written down before. -/
def track (desk : Desk) (ledger : Ledger) : List Event → Ledger
  | [] => ledger
  | event :: rest => (desk.step event).2.track (ledger.note event (desk.step event).1) rest

/-- The ledger of a list of events. -/
def ledger (desk : Desk) (events : List Event) : Ledger := desk.track .blank events

/-- The ledger of a history fits its session; by induction on the events. -/
theorem track_fits : ∀ (events : List Event) {desk : Desk} {ledger : Ledger},
    ledger.Fits desk.session →
      (desk.track ledger events).Fits (desk.history events).session := by
  intro events
  induction events with
  | nil => intro desk ledger h; exact h
  | cons event rest ih => intro desk ledger h; exact ih (Ledger.follows_step event h).fits

/-- A history shows requests in order exactly when none of its events shows an older one. -/
theorem track_in_order_iff : ∀ (events : List Event) {desk : Desk} {ledger : Ledger},
    ledger.Fits desk.session →
      ((desk.track ledger events).shown.Pairwise (· > ·) ↔
        ledger.shown.Pairwise (· > ·) ∧
          ∀ before event after, events = before ++ event :: after →
            ¬(desk.track ledger before).GoesBack event ((desk.history before).step event).1) := by
  intro events
  induction events with
  | nil => intro desk ledger _; exact ⟨fun h => ⟨h, forall_split_nil⟩, And.left⟩
  | cons event rest ih =>
    intro desk ledger h
    have hstep := Ledger.follows_step event h
    show ((desk.step event).2.track _ rest).shown.Pairwise (· > ·) ↔ _
    rw [ih hstep.fits, hstep.order, forall_split_cons, and_assoc]
    rfl

/-- **When the view goes back to an older request.** The requests shown in a history have rising
numbers exactly if no event of it searches a held text after a request made later has been shown.
The number put down last is that of the query shown. -/
theorem shown_in_order_iff {config : Config} {entries : List Entry} {session : Session}
    (hstart : Session.start config entries = .ok session) (handler : Handler)
    (events : List Event) :
    let desk := Desk.create session handler
    ((desk.ledger events).shown.Pairwise (· > ·) ↔
      ∀ before event after, events = before ++ event :: after →
        ¬(desk.ledger before).GoesBack event ((desk.history before).step event).1) ∧
    ∀ number ∈ (desk.ledger events).shown.head?,
      (desk.ledger events).requests[number]? = some (desk.history events).session.query := by
  intro desk
  have hblank : Ledger.blank.Fits desk.session :=
    Ledger.fits_blank (Session.waiting?_start hstart) (Session.pending_start hstart)
  refine ⟨?_, (track_fits events hblank).top⟩
  refine (track_in_order_iff events hblank).trans ⟨And.right, fun h => ⟨?_, h⟩⟩
  exact List.Pairwise.nil

theorem track_in_order : ∀ (events : List Event) {desk : Desk} {ledger : Ledger},
    ledger.Fits desk.session → ledger.Ahead desk.session →
      (∀ before event after, events = before ++ event :: after →
        ¬(desk.history before).Overtakes event) →
      ledger.shown.Pairwise (· > ·) → (desk.track ledger events).shown.Pairwise (· > ·) := by
  intro events
  induction events with
  | nil => intro desk ledger _ _ _ hp; exact hp
  | cons event rest ih =>
    intro desk ledger h ha hover hp
    obtain ⟨hfirst, hrest⟩ := forall_split_cons.mp hover
    have hstep := Ledger.follows_step event h
    refine ih hstep.fits (Ledger.ahead_step event h ha hfirst) hrest ?_
    exact hstep.order.mpr ⟨hp, ha.not_goesBack event⟩

/-- **The view never goes back if no query overtakes a held text.** -/
theorem shown_in_order_of_not_overtakes {config : Config} {entries : List Entry}
    {session : Session} (hstart : Session.start config entries = .ok session) (handler : Handler)
    {events : List Event}
    (hover : ∀ before event after, events = before ++ event :: after →
      ¬((Desk.create session handler).history before).Overtakes event) :
    ((Desk.create session handler).ledger events).shown.Pairwise (· > ·) := by
  have hw := Session.waiting?_start hstart
  exact track_in_order events (Ledger.fits_blank hw (Session.pending_start hstart))
    (Ledger.ahead_of_none hw) hover List.Pairwise.nil

/-- A text is held while a query submitted later is searched and shown; then the text is shown. -/
def trialReturn : List Event :=
  [.text (Query.ofText "co"), .submit (Query.ofText "calc"), .runJobs none, .poll, .flush]

theorem trial_in_order_iff : ∃ session, Session.start trialConfig trialEntries = .ok session ∧
    let desk := Desk.create session .absent
    ((desk.ledger trialReturn).shown.Pairwise (· > ·) ↔
      ∀ before event after, trialReturn = before ++ event :: after →
        ¬(desk.ledger before).GoesBack event ((desk.history before).step event).1) ∧
    ∀ number ∈ (desk.ledger trialReturn).shown.head?,
      (desk.ledger trialReturn).requests[number]?
        = some (desk.history trialReturn).session.query := by
  obtain ⟨desk, hdesk⟩ := exists_trial
  obtain ⟨session, hstart, rfl⟩ := start_of_trial hdesk
  exact ⟨session, hstart, shown_in_order_iff hstart .absent trialReturn⟩

/-- The view goes back: the query is shown first, then the text that was typed before it. -/
theorem trial_goes_back : ∃ desk, trial? = some desk ∧ desk.Opened 2 ∧
    (∀ event ∈ trialReturn, event.IsTyped) ∧ (desk.ledger trialReturn).shown = [0, 1] ∧
      ¬(desk.ledger trialReturn).shown.Pairwise (· > ·) := by
  have hrun : trial?.map (fun desk => (desk.ledger trialReturn).shown) = some [0, 1] := by
    decide
  obtain ⟨desk, hdesk, hshown⟩ := Option.map_eq_some_iff.mp hrun
  have htyped : ∀ event ∈ trialReturn, event.IsTyped := by
    simp [trialReturn, Event.IsTyped]
  refine ⟨desk, hdesk, opened_trial hdesk, htyped, hshown, ?_⟩
  rw [hshown]
  decide

end Desk

end Launcher
